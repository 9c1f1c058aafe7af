import Blocklist.ContentRule.Json
import Blocklist.Corpus.Report
import Blocklist.Dataset
/-!
Files that hold a dataset or a list of rules.
-/

namespace Blocklist

def writeOutput (t : FileTree) (path text : String) : Except LoadError FileTree := do
  let p := Path.ofText path
  let parent : Path := p.dropLast
  let t ← (t.makeDirectory parent).mapError (.write parent.toText)
  (t.writeText p text).mapError (.write path)

def readInput (t : FileTree) (path : String) : Except LoadError String :=
  (t.readText (.ofText path)).mapError (.read path)

def writeDataset (t : FileTree) (path : String) (d : Dataset) : Except LoadError FileTree :=
  writeOutput t path d.toText

def readDataset [Pattern.SizeLimit] (t : FileTree) (path : String) : Except LoadError Dataset := do
  (Dataset.read (← readInput t path)).mapError .dataset

def writeRules (t : FileTree) (path : String) (rs : List ContentRule) :
    Except LoadError FileTree :=
  writeOutput t path (ContentRule.listToJson rs).pretty

def readRules (t : FileTree) (path : String) : Except LoadError (List ContentRule) := do
  (ContentRule.readList (← readInput t path)).mapError .rules

end Blocklist
