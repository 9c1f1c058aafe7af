import Blocklist.Host
import Blocklist.Text.Utf8
/-!
Public suffixes: the ends of host names under which anybody can register a domain. A suffix list
tells the registrable domain of a host, which is its public suffix with one more label, and so which
hosts belong to the same site. Without rules, a short table of common suffixes takes their place.
-/

namespace Blocklist

open Text

/-- A rule for public suffixes. -/
structure SuffixRule where
  /-- The labels, from right to left. The label `*` stands for any. -/
  labels : List (List Char)
  /-- Whether the rule takes back a wildcard: the suffix is then one label shorter. -/
  isException : Bool
deriving DecidableEq, Repr

/-- What public suffixes are taken from. -/
inductive SuffixList where
  /-- A short table of suffixes of two labels. -/
  | heuristic
  /-- Rules. Of rules with the same labels the last counts. -/
  | rules (rs : List SuffixRule)
deriving DecidableEq, Repr

namespace SuffixList

def commonSuffixes : List String :=
  ["co.uk", "co.jp", "co.nz", "co.za", "co.in", "co.kr",
    "com.au", "com.br", "com.cn", "com.mx", "com.tw", "com.hk",
    "net.au", "net.nz",
    "org.uk", "org.au",
    "gov.uk", "gov.au",
    "ac.uk", "ac.jp",
    "ne.jp", "or.jp"]

/-- What is left of the rules that start with a label. -/
def descend (label : List Char) (rs : List SuffixRule) : List SuffixRule :=
  rs.filterMap fun r =>
    match r.labels with
    | l :: ls => if l = label then some { r with labels := ls } else none
    | [] => none

/-- Among what is left of some rules, the one that has no label left. -/
def ending? (rs : List SuffixRule) : Option SuffixRule :=
  rs.reverse.find? (·.labels.isEmpty)

/-- The rules that go on with a label, or with `*` if none does. -/
def step (rs : List SuffixRule) (label : List Char) : List SuffixRule :=
  if (descend label rs).isEmpty then descend ['*'] rs else descend label rs

/-- The number of labels in a public suffix, when `taken` labels have been matched, of which `size`
are known to belong to it. -/
def extend (rs : List SuffixRule) (taken size : Nat) : List (List Char) → Nat
  | [] => size
  | label :: labels =>
    let rs' := step rs label
    if rs'.isEmpty then size
    else
      match ending? rs' with
      | some r => if r.isException then taken else extend rs' (taken + 1) (taken + 1) labels
      | none => extend rs' (taken + 1) size labels

/-- The number of labels in the public suffix of a host, whose labels are given from right to left.
The last label is a suffix in any case, and no wildcard stands for it. -/
def suffixSize (rs : List SuffixRule) : List (List Char) → Nat
  | [] => 0
  | label :: labels => extend (descend label rs) 1 1 labels

/-- The registrable domain of a host by rules, if something stands in front of its public suffix. -/
def registrableByRules? (rs : List SuffixRule) (host : List Char) : Option (List Char) :=
  let labels := (parts '.' host).reverse
  let size := suffixSize rs labels
  match labels.drop size with
  | [] => none
  | [[]] => none
  | _ => some (joined '.' (labels.take (size + 1)).reverse)

/-- The registrable domain of a host by the table of common suffixes. -/
def registrableByTable (host : List Char) : List Char :=
  let labels := (parts '.' host).reverse
  let lastTwo := joined '.' (labels.take 2).reverse
  if commonSuffixes.contains (String.ofList lastTwo) then joined '.' (labels.take 3).reverse
  else lastTwo

/-- The registrable domain of a host in lower case. Trailing dots do not count. A host that is
itself a public suffix or a single label stays as it is. -/
def registrableChars (list : SuffixList) (host : List Char) : List Char :=
  let host := dropEndWhile (· == '.') host
  match list with
  | heuristic => registrableByTable host
  | rules rs => (registrableByRules? rs host).getD host

/-- The registrable domain of a host in lower case. Trailing dots do not count. A host that is
itself a public suffix or a single label stays as it is. -/
def registrable (list : SuffixList) (host : String) : String :=
  String.ofList (list.registrableChars host.toList)

/-- Whether two hosts have the same registrable domain. -/
def isSameSite (list : SuffixList) (host₁ host₂ : String) : Bool :=
  list.registrable host₁ == list.registrable host₂

/-- The texts behind the dots of a host, the longest first, without an empty one. -/
def parents : List Char → List (List Char)
  | [] => []
  | c :: cs => if c = '.' && !cs.isEmpty then cs :: parents cs else parents cs

/-- The length that a domain must have to be looked for among the domains of a host: that of the
public suffix if it has a dot, and else that of the registrable domain. -/
def leastLength (list : SuffixList) (host : List Char) : Nat :=
  let domain := list.registrableChars host
  if domain.isSuffixOf host then
    match Host.parentChars? domain with
    | some suffix => if suffix.contains '.' then utf8Length suffix else utf8Length domain
    | none => utf8Length domain
  else utf8Length host

/-- The domains that a host belongs to, from itself down to its public suffix. A public suffix of a
single label is not among them. -/
def walkChars (list : SuffixList) (host : List Char) : List (List Char) :=
  if host.isEmpty then []
  else (host :: parents host).takeWhile fun d => list.leastLength host ≤ utf8Length d

/-- The domains that a host belongs to, from itself down to its public suffix. A public suffix of a
single label is not among them. -/
def walk (list : SuffixList) (host : String) : List String :=
  (list.walkChars host.toList).map String.ofList

def isHeuristic : SuffixList → Bool
  | heuristic => true
  | rules _ => false

def description (list : SuffixList) : String :=
  let source := if list.isHeuristic then "heuristic" else "psl"
  "SuffixList \x7b source: \"" ++ source ++ "\" \x7d"

end SuffixList

end Blocklist
