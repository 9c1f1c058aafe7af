import Blocklist.ContentRule.Evaluate
import Blocklist.Dataset
import Blocklist.SuffixList.Basic
/-!
The detector: what is decided about a request by a dataset, a suffix list and a set of trusted
sites. The tracker of a request is the one with the longest domain among those that the host of the
resource belongs to.
-/

namespace Blocklist

/-- Why a request has its action. -/
inductive Reason where
  /-- The page is on a trusted site. -/
  | trustedSite
  /-- The page belongs to the owner of the tracker. -/
  | sameEntity
  /-- The rule with this index is for the request. -/
  | rule (index : Nat)
  /-- The rule with this index is for the request, but so is its exception. -/
  | ruleException (index : Nat)
  /-- No rule is for the request. -/
  | default
deriving DecidableEq, Repr

def Reason.kind : Reason → String
  | trustedSite => "trusted_site"
  | sameEntity => "same_entity"
  | rule _ => "rule"
  | ruleException _ => "rule_exception"
  | default => "default"

/-- The index of the rule in a reason. -/
def Reason.index? : Reason → Option Nat
  | rule i => some i
  | ruleException i => some i
  | _ => none

/-- What is decided about a request to a tracker. -/
structure Classification where
  action : Action
  trackerDomain : String
  /-- The owner of the tracker. -/
  entity : Option Entity
  reason : Reason
deriving DecidableEq

variable [Pattern.SizeLimit]

/-- The filters for the rules of a tracker, where they can be compiled. -/
def ruleFilters (t : Tracker) : List (Option Pattern) :=
  t.rules.map fun r => (Filter.compile (Tracker.urlFilter t.domain r)).toOption

/-- What requests are classified by. -/
structure Detector where
  dataset : Dataset
  /-- The filters for the rules of each tracker. -/
  filters : TextMap (List (Option Pattern))
  suffixes : SuffixList
  trustedSites : TextSet
  filters_eq : filters = dataset.trackers.map fun _ t => ruleFilters t

namespace Detector

/-- The detector for a dataset, without trusted sites and without suffix rules. -/
def ofDataset (d : Dataset) : Detector :=
  ⟨d, d.trackers.map fun _ t => ruleFilters t, .heuristic, .empty, rfl⟩

def withSuffixes (d : Detector) (suffixes : SuffixList) : Detector :=
  { d with suffixes }

/-- Trusts a site, if it is a valid host. -/
def trust (d : Detector) (site : String) : Detector :=
  match Host.normalize? site with
  | some site => { d with trustedSites := d.trustedSites.insert site }
  | none => d

def untrust (d : Detector) (site : String) : Detector :=
  match Host.normalize? site with
  | some site => { d with trustedSites := d.trustedSites.erase site }
  | none => d

def trustAll (d : Detector) (sites : List String) : Detector :=
  sites.foldl trust d

def tracker? (d : Detector) (host : String) : Option Tracker :=
  (d.suffixes.walk host).findSome? d.dataset.tracker?

def entity? (d : Detector) (host : String) : Option Entity :=
  (d.suffixes.walk host).findSome? d.dataset.entityForDomain?

/-- Whether the host of a page belongs to one of some domains. -/
def pageIsIn (d : Detector) (domains : TextSet) (pageHost : Option String) : Bool :=
  pageHost.any fun host => (d.suffixes.walk host).any domains.contains

/-- Whether something for some kinds of resources and some domains is for a request. Nothing given
means any. -/
def isFor (d : Detector) (types : TypeMask) (domains : TextSet) (pageHost : Option String)
    (type : Option TypeMask) : Bool :=
  types.admits type && (domains.isEmpty || d.pageIsIn domains pageHost)

/-- Whether the exception of a rule is for a request. -/
def isExcepted (d : Detector) (r : TrackerRule) (pageHost : Option String)
    (type : Option TypeMask) : Bool :=
  !r.exceptions.isEmpty && d.isFor r.exceptions.types r.exceptions.domains pageHost type

/-- The filters for the rules of a tracker. -/
def filtersOf (d : Detector) (t : Tracker) : List (Option Pattern) :=
  (d.filters.get? t.domain).getD []

/-- Whether a rule with its filter is for a request. A rule whose filter cannot be compiled is for
none. -/
def ruleApplies (d : Detector) (url : String) (pageHost : Option String) (type : Option TypeMask)
    (r : TrackerRule) (filter : Option Pattern) : Bool :=
  filter.any (·.isMatch url) && d.isFor r.types r.domains pageHost type

/-- What the first rule that is for a request decides. `index` rules have been passed over. -/
def firstRule? (d : Detector) (url : String) (pageHost : Option String)
    (type : Option TypeMask) (index : Nat) :
    List (TrackerRule × Option Pattern) → Option (Action × Reason)
  | [] => none
  | (r, filter) :: rest =>
    if d.ruleApplies url pageHost type r filter then
      if d.isExcepted r pageHost type then some (.ignore, .ruleException index)
      else some (r.action, .rule index)
    else d.firstRule? url pageHost type (index + 1) rest

def isOwnPage (d : Detector) (owner : Option Entity) (pageHost : String) : Bool :=
  match owner, d.entity? pageHost with
  | some owner, some entity => owner.isSame entity
  | _, _ => false

/-- What is decided about a request to a tracker, and why. -/
def verdict (d : Detector) (t : Tracker) (url : String) (pageHost : Option String)
    (type : Option TypeMask) : Action × Reason :=
  if d.pageIsIn d.trustedSites pageHost then (.ignore, .trustedSite)
  else if pageHost.any (d.isOwnPage (d.dataset.ownerOf? t)) then (.ignore, .sameEntity)
  else
    (d.firstRule? url pageHost type 0 (t.rules.zip (d.filtersOf t))).getD (t.action, .default)

/-- What is decided about a request, if it is one to a tracker. -/
def classify (d : Detector) (r : Request) : Option Classification :=
  (Url.normalize? r.resource).bind fun resource =>
    (d.tracker? resource.host).map fun t =>
      let (action, reason) := d.verdict t resource.url (Url.host? r.page) r.type
      ⟨action, t.domain, d.dataset.ownerOf? t, reason⟩

end Detector

end Blocklist
