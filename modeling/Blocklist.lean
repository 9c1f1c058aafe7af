import Blocklist.Action
import Blocklist.Binary64
import Blocklist.Command.Arguments
import Blocklist.Command.Run
import Blocklist.ContentRule.Basic
import Blocklist.ContentRule.Compile
import Blocklist.ContentRule.Evaluate
import Blocklist.ContentRule.Json
import Blocklist.Corpus.Compilation
import Blocklist.Corpus.EntityRegistry
import Blocklist.Corpus.Output
import Blocklist.Corpus.Report
import Blocklist.Corpus.TrackerCatalog
import Blocklist.Csv.Reading
import Blocklist.Csv.Writing
import Blocklist.Dataset
import Blocklist.Detector
import Blocklist.Detector.Json
import Blocklist.Entity
import Blocklist.FileTree
import Blocklist.Filter
import Blocklist.Host
import Blocklist.Host.Ascii
import Blocklist.Json.Decoding
import Blocklist.Json.Node
import Blocklist.Json.Reading
import Blocklist.Json.Scan
import Blocklist.Json.Value
import Blocklist.Main
import Blocklist.Pattern.Ast
import Blocklist.Pattern.Basic
import Blocklist.Pattern.CharSet
import Blocklist.Pattern.Estimate
import Blocklist.Pattern.Expr
import Blocklist.Pattern.Meaning
import Blocklist.Pattern.Parser
import Blocklist.Pattern.PropertyName
import Blocklist.Pattern.Search
import Blocklist.Pattern.Size
import Blocklist.Proofs.Binary64.Decimal
import Blocklist.Proofs.Binary64.Rounding
import Blocklist.Proofs.ContentRule.Agreement
import Blocklist.Proofs.ContentRule.Blocks
import Blocklist.Proofs.ContentRule.Duplicates
import Blocklist.Proofs.ContentRule.Exceptions
import Blocklist.Proofs.ContentRule.Json
import Blocklist.Proofs.ContentRule.Offsets
import Blocklist.Proofs.ContentRule.Order
import Blocklist.Proofs.ContentRule.OwnerGuard
import Blocklist.Proofs.ContentRule.RuleDecisions
import Blocklist.Proofs.ContentRule.Triggers
import Blocklist.Proofs.Corpus.Compilation
import Blocklist.Proofs.Corpus.EntityRegistry
import Blocklist.Proofs.Corpus.OwnerLookup
import Blocklist.Proofs.Corpus.Report
import Blocklist.Proofs.Corpus.TrackerCatalog
import Blocklist.Proofs.Csv
import Blocklist.Proofs.Dataset.Construction
import Blocklist.Proofs.Dataset.Json
import Blocklist.Proofs.Dataset.Rebuilding
import Blocklist.Proofs.Dataset.Statistics
import Blocklist.Proofs.Detector.Decisions
import Blocklist.Proofs.Detector.Filters
import Blocklist.Proofs.Detector.LetterCase
import Blocklist.Proofs.Detector.LongestDomain
import Blocklist.Proofs.Detector.Offsets
import Blocklist.Proofs.Detector.Owners
import Blocklist.Proofs.Detector.Pruning
import Blocklist.Proofs.Detector.Relevance
import Blocklist.Proofs.Detector.Suffixes
import Blocklist.Proofs.Detector.TrustedSites
import Blocklist.Proofs.Entity
import Blocklist.Proofs.Except
import Blocklist.Proofs.FileTree
import Blocklist.Proofs.Filter.Anchoring
import Blocklist.Proofs.Filter.Coverage
import Blocklist.Proofs.Filter.Hosts
import Blocklist.Proofs.Filter.Marks
import Blocklist.Proofs.Filter.Reading
import Blocklist.Proofs.Filter.Shortening
import Blocklist.Proofs.Filter.Support
import Blocklist.Proofs.Filter.Words
import Blocklist.Proofs.Host.Covering
import Blocklist.Proofs.Host.NormalForm
import Blocklist.Proofs.Host.Offsets
import Blocklist.Proofs.Json.Layout
import Blocklist.Proofs.Json.Numerals
import Blocklist.Proofs.Json.Reals
import Blocklist.Proofs.Json.Records
import Blocklist.Proofs.Json.Strings
import Blocklist.Proofs.Pattern.CaseBlindness
import Blocklist.Proofs.Pattern.LetterCase
import Blocklist.Proofs.Pattern.Scanning
import Blocklist.Proofs.Pattern.Search
import Blocklist.Proofs.Pattern.Spelling
import Blocklist.Proofs.Pattern.Trace
import Blocklist.Proofs.ResourceType
import Blocklist.Proofs.SnapshotStore
import Blocklist.Proofs.SuffixList.Labels
import Blocklist.Proofs.SuffixList.Offsets
import Blocklist.Proofs.SuffixList.PublicSuffix
import Blocklist.Proofs.SuffixList.Registrable
import Blocklist.Proofs.SuffixList.Rules
import Blocklist.Proofs.SuffixList.SameSite
import Blocklist.Proofs.SuffixList.Walk
import Blocklist.Proofs.Text.Ascii
import Blocklist.Proofs.Text.Offsets
import Blocklist.Proofs.Text.Parts
import Blocklist.Proofs.Text.Trimming
import Blocklist.Proofs.Text.Utf8
import Blocklist.Proofs.TextMap
import Blocklist.Proofs.Tracker.HostPrefix
import Blocklist.Proofs.Tracker.Json
import Blocklist.Proofs.Tracker.NormalForm
import Blocklist.Proofs.Tracker.Offsets
import Blocklist.Proofs.Tracker.Renormalizing
import Blocklist.Proofs.Url.Authority
import Blocklist.Proofs.Url.Grammar
import Blocklist.Proofs.Url.LetterCase
import Blocklist.Proofs.Url.Offsets
import Blocklist.Proofs.Validation
import Blocklist.Punycode
import Blocklist.ResourceType
import Blocklist.SnapshotStore
import Blocklist.SuffixList.Basic
import Blocklist.SuffixList.Reading
import Blocklist.Text.AsciiCase
import Blocklist.Text.Blank
import Blocklist.Text.Parts
import Blocklist.Text.Quoted
import Blocklist.Text.Utf8
import Blocklist.TextMap
import Blocklist.TextSet
import Blocklist.Tracker.Basic
import Blocklist.Tracker.Json
import Blocklist.Tracker.Normalize
import Blocklist.Unicode.Age
import Blocklist.Unicode.BinaryProperty
import Blocklist.Unicode.CaseFolding
import Blocklist.Unicode.Composition
import Blocklist.Unicode.Direction
import Blocklist.Unicode.GeneralCategory
import Blocklist.Unicode.HostMapping
import Blocklist.Unicode.Script
import Blocklist.Unicode.Segmentation
import Blocklist.Unicode.Table
import Blocklist.Unicode.Word
import Blocklist.Url
import Blocklist.Validation
