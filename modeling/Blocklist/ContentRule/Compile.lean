import Blocklist.ContentRule.Basic
import Blocklist.Dataset
/-!
Compiling a dataset into rules for content blocking hosts. A host applies the first rule that
matches a request. So the rule for trusted sites comes first, the trackers follow with more labels
in front of those with fewer, and for each tracker come the pages of its owner, then every rule
behind its exception, and at last what is done about everything else.
-/

namespace Blocklist

open Text

/-- Elements to be hidden on the pages of a domain. -/
structure ElementHiding where
  domain : String
  selector : String
deriving DecidableEq, Repr

namespace ElementHiding

/-- Reads a domain and a selector with `=` between them. -/
def read (s : String) : Except String ElementHiding :=
  match cut? '=' s.toList with
  | none => .error ("expected DOMAIN=SELECTOR, got '" ++ s ++ "'")
  | some (domain, selector) =>
    match Host.normalize? (String.ofList domain) with
    | none => .error ("invalid domain '" ++ String.ofList domain ++ "'")
    | some domain =>
      let selector := trimChars selector
      if selector.isEmpty then .error ("empty selector for " ++ domain)
      else .ok ⟨domain, String.ofList selector⟩

/-- The domain and the selector with `=` between them. -/
def toText (h : ElementHiding) : String :=
  h.domain ++ "=" ++ h.selector

end ElementHiding

/-- What rules are compiled with beside the dataset. -/
structure CompileOptions where
  /-- Nothing is blocked on the pages of these sites. -/
  trustedSites : List String
  hidings : List ElementHiding
deriving DecidableEq, Inhabited

namespace ContentRule

def anyUrl : String := ".*"

/-- The rule for trusted sites, if there are any. Sites that are no valid hosts are left out. -/
def trustedRules (sites : List String) : List ContentRule :=
  let trusted := TextSet.ofList (sites.filterMap Host.normalize?)
  if trusted.isEmpty then []
  else [⟨(Trigger.forFilter anyUrl).withDomains trusted.toList, .ignorePreviousRules⟩]

def hidingRule (h : ElementHiding) : ContentRule :=
  ⟨(Trigger.forFilter anyUrl).withDomains [h.domain], .hide h.selector⟩

/-- Whether a domain is one of some domains or a subdomain of one. -/
def isCovered (domains : TextSet) (domain : String) : Bool :=
  domains.toList.any fun d => Host.covers d domain

/-- The domains that both of two sets cover. An empty set covers all. -/
def commonDomains (s t : TextSet) : TextSet :=
  if s.isEmpty then t
  else if t.isEmpty then s
  else .ofList (s.toList.filter (isCovered t) ++ t.toList.filter (isCovered s))

/-- The kinds of resources that both of two sets are for. An empty set is for all. There is no
answer if the sets share no kind. -/
def commonTypes? (m n : TypeMask) : Option TypeMask :=
  if n.isEmpty then some m
  else if m.isEmpty then some n
  else if (m.inter n).isEmpty then none
  else some (m.inter n)

/-- The trigger for the exception of a rule, if there is an exception that can hold where the rule
does. -/
def exceptionTrigger? (r : TrackerRule) (filter : String) : Option Trigger :=
  if r.exceptions.isEmpty then none
  else
    (commonTypes? r.types r.exceptions.types).bind fun types =>
      let domains := commonDomains r.domains r.exceptions.domains
      if domains.isEmpty && !(r.domains.isEmpty && r.exceptions.domains.isEmpty) then none
      else some (((Trigger.forFilter filter).withTypes types).withDomains domains.toList)

/-- The rules for a rule of a tracker. -/
def ofTrackerRule (domain : String) (r : TrackerRule) : List ContentRule :=
  let filter := Tracker.urlFilter domain r
  let exceptions := (exceptionTrigger? r filter).toList.map (⟨·, .ignorePreviousRules⟩)
  let trigger := ((Trigger.forFilter filter).withTypes r.types).withDomains r.domains.toList
  exceptions ++ [⟨trigger, .ofAction r.action⟩]

/-- The rule for the pages of an owner, if it has any. -/
def ownerRules (scope : String) (owner : Option Entity) : List ContentRule :=
  match owner with
  | none => []
  | some e =>
    if e.domains.isEmpty then []
    else [⟨(Trigger.forFilter scope).withDomains e.domains.toList, .ignorePreviousRules⟩]

def ofTracker (d : Dataset) (t : Tracker) : List ContentRule :=
  let scope := Filter.scope t.domain
  ownerRules scope (d.ownerOf? t) ++ t.rules.flatMap (ofTrackerRule t.domain) ++
    [⟨.forFilter scope, .ofAction t.action⟩]

/-- Whether a tracker comes no later than another: it has more labels, or as many and its domain
comes no later. -/
def comesFirst (t u : Tracker) : Bool :=
  let m := (Host.labels t.domain).length
  let n := (Host.labels u.domain).length
  n < m || (m == n && !(u.domain < t.domain))

def compile (d : Dataset) (options : CompileOptions) : List ContentRule :=
  trustedRules options.trustedSites ++
    (d.trackers.values.mergeSort comesFirst).flatMap (ofTracker d) ++
    options.hidings.map hidingRule

/-! ## Duplicates -/

/-- Counts of rules around the removal of duplicates. -/
structure OptimizeStats where
  before : Nat
  after : Nat
  deduped : Nat
deriving DecidableEq, Repr

/-- Keeps the first copy of each rule. A later one never decides, as the first one has matched. -/
def optimize (rs : List ContentRule) : List ContentRule :=
  rs.foldl (fun kept r => if kept.contains r then kept else kept ++ [r]) []

/-- Counts the rules around the removal of duplicates. -/
def optimizeStats (rs : List ContentRule) : OptimizeStats :=
  let after := (optimize rs).length
  ⟨rs.length, after, rs.length - after⟩

end ContentRule

end Blocklist
