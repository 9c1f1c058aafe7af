import Blocklist.Filter
import Blocklist.Host
import Blocklist.Tracker.Basic
/-!
The normal form of trackers: domains in normal form, and patterns for what follows the host. A
tracker without a normal form is refused, so the patterns of the others can all be compiled.
-/

namespace Blocklist.Tracker

open Text

/-- Why a tracker is refused. -/
inductive Refusal where
  | invalidDomain (domain : String)
  /-- The URL filter for the pattern of a rule cannot be compiled. -/
  | invalidPattern (pattern : String)
  /-- The pattern of a rule goes beyond what content blocking hosts can express. -/
  | unsupportedPattern (pattern : String)
deriving DecidableEq, Repr

def Refusal.message : Refusal → String
  | invalidDomain domain => "Invalid domain: '" ++ domain ++ "'"
  | invalidPattern pattern => "Invalid rule pattern '" ++ pattern ++ "'"
  | unsupportedPattern pattern =>
    "Unsupported syntax in rule pattern '" ++ pattern ++
      "' (alternation and counted repetition are not allowed)"

def normalizeDomain (domain : String) : Except Refusal String :=
  match Host.normalize? domain with
  | some d => .ok d
  | none => .error (.invalidDomain domain)

def normalizeDomains (domains : TextSet) : Except Refusal TextSet :=
  TextSet.ofList <$> domains.toList.mapM normalizeDomain

/-- A pattern without a slash in front, which may be escaped. -/
def dropLeadingSlash : List Char → List Char
  | '\\' :: '/' :: cs => cs
  | '/' :: cs => cs
  | cs => cs

/-- A pattern without the host in front. The host is the domain of the tracker, as a pattern. -/
def dropHostChars (pattern domain : List Char) : List Char :=
  let host := Filter.escapeDomainChars domain
  if equalIgnoringCase (pattern.take host.length) host then
    dropLeadingSlash (pattern.drop host.length)
  else dropLeadingSlash pattern

/-- A pattern without the host in front. The host is the domain of the tracker, as a pattern. -/
def dropHost (pattern domain : String) : String :=
  String.ofList (dropHostChars pattern.toList domain.toList)

/-- Refuses a pattern that content blocking hosts cannot express. -/
def checkPattern (pattern : String) : Except Refusal Unit :=
  if Filter.isSupported pattern then .ok () else .error (.unsupportedPattern pattern)

/-- The URL filter for a rule of a tracker. -/
def urlFilter (domain : String) (r : TrackerRule) : String :=
  Filter.urlFilter domain r.pattern r.options.subdomains

/-- A rule in normal form, for a tracker whose domain is in normal form. -/
def normalizeRule [Pattern.SizeLimit] (domain : String) (r : TrackerRule) :
    Except Refusal TrackerRule := do
  let domains ← normalizeDomains r.domains
  let exceptionDomains ← normalizeDomains r.exceptions.domains
  let pattern := dropHost r.pattern domain
  checkPattern pattern
  let r : TrackerRule :=
    { r with pattern, domains, exceptions := { r.exceptions with domains := exceptionDomains } }
  match Filter.compile (urlFilter domain r) with
  | .ok _ => return r
  | .error _ => throw (.invalidPattern pattern)

def normalize [Pattern.SizeLimit] (t : Tracker) : Except Refusal Tracker := do
  let domain ← normalizeDomain t.domain
  let owner := (t.owner.map trim).filter (!·.isEmpty)
  return { t with domain, owner, rules := ← t.rules.mapM (normalizeRule domain) }

end Blocklist.Tracker
