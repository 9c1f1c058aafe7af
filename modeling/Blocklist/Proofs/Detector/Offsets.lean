import Blocklist.Detector
import Blocklist.Pattern.Estimate
import Blocklist.Proofs.ContentRule.Offsets
import Blocklist.Proofs.SuffixList.Offsets
import Blocklist.Proofs.Tracker.Offsets

/-! # Requests by byte offsets

No URL, host, domain or pattern makes a step by offsets fail while a request is classified or rules
are applied to it. Main statement: `staysInRange`. -/

namespace Blocklist

open Text

section

variable [Pattern.SizeLimit]

namespace Detector

namespace Bytewise

def tracker? (d : Detector) (host : String) : Except OffsetError (Option Tracker) := do
  return (← SuffixList.Bytewise.walk d.suffixes host).findSome? d.dataset.tracker?

def entity? (d : Detector) (host : String) : Except OffsetError (Option Entity) := do
  return (← SuffixList.Bytewise.walk d.suffixes host).findSome? d.dataset.entityForDomain?

/-- Whether the host of a page belongs to one of some domains. -/
def pageIsIn (d : Detector) (domains : TextSet) (pageHost : Option String) :
    Except OffsetError Bool := do
  match pageHost with
  | none => return false
  | some host => return (← SuffixList.Bytewise.walk d.suffixes host).any domains.contains

/-- Whether something for some kinds of resources and some domains is for a request. -/
def isFor (d : Detector) (types : TypeMask) (domains : TextSet) (pageHost : Option String)
    (type : Option TypeMask) : Except OffsetError Bool := do
  if types.admits type then
    if domains.isEmpty then return true else pageIsIn d domains pageHost
  else return false

/-- Whether the exception of a rule is for a request. -/
def isExcepted (d : Detector) (r : TrackerRule) (pageHost : Option String)
    (type : Option TypeMask) : Except OffsetError Bool := do
  if !r.exceptions.isEmpty then isFor d r.exceptions.types r.exceptions.domains pageHost type
  else return false

/-- Whether a rule with its filter is for a request. -/
def ruleApplies (d : Detector) (url : String) (pageHost : Option String) (type : Option TypeMask)
    (r : TrackerRule) (filter : Option Pattern) : Except OffsetError Bool := do
  if filter.any (·.isMatch url) then isFor d r.types r.domains pageHost type else return false

/-- What the first rule that is for a request decides. `index` rules have been passed over. -/
def firstRule? (d : Detector) (url : String) (pageHost : Option String) (type : Option TypeMask)
    (index : Nat) : List (TrackerRule × Option Pattern) →
      Except OffsetError (Option (Action × Reason))
  | [] => return none
  | (r, filter) :: rest => do
    if ← ruleApplies d url pageHost type r filter then
      if ← isExcepted d r pageHost type then return some (.ignore, .ruleException index)
      else return some (r.action, .rule index)
    else firstRule? d url pageHost type (index + 1) rest

/-- Whether the page of a request belongs to the owner of a tracker. -/
def isOwnPage (d : Detector) (owner : Option Entity) (pageHost : Option String) :
    Except OffsetError Bool := do
  match owner, pageHost with
  | some owner, some host => return (← entity? d host).any owner.isSame
  | _, _ => return false

/-- What is decided about a request to a tracker, and why. -/
def verdict (d : Detector) (t : Tracker) (url : String) (pageHost : Option String)
    (type : Option TypeMask) : Except OffsetError (Action × Reason) := do
  if ← pageIsIn d d.trustedSites pageHost then return (.ignore, .trustedSite)
  else if ← isOwnPage d (d.dataset.ownerOf? t) pageHost then return (.ignore, .sameEntity)
  else
    let first ← firstRule? d url pageHost type 0 (t.rules.zip (d.filtersOf t))
    return first.getD (t.action, .default)

/-- What is decided about a request, if it is one to a tracker. -/
def classify (d : Detector) (r : Request) : Except OffsetError (Option Classification) := do
  match ← Url.Bytewise.normalize? r.resource with
  | none => return none
  | some resource =>
    match ← tracker? d resource.host with
    | none => return none
    | some t =>
      let pageHost ← Url.Bytewise.host? r.page
      let (action, reason) ← verdict d t resource.url pageHost r.type
      return some ⟨action, t.domain, d.dataset.ownerOf? t, reason⟩

end Bytewise

variable (d : Detector) (url : String) (pageHost : Option String) (type : Option TypeMask)

theorem Bytewise.tracker?_eq (host : String) :
    Bytewise.tracker? d host = pure (d.tracker? host) := by
  rw [Bytewise.tracker?, SuffixList.Bytewise.walk_eq, pure_bind, Detector.tracker?]

theorem Bytewise.entity?_eq (host : String) :
    Bytewise.entity? d host = pure (d.entity? host) := by
  rw [Bytewise.entity?, SuffixList.Bytewise.walk_eq, pure_bind, Detector.entity?]

theorem Bytewise.pageIsIn_eq (domains : TextSet) :
    Bytewise.pageIsIn d domains pageHost = pure (d.pageIsIn domains pageHost) := by
  cases pageHost with
  | none => rfl
  | some host => simp only [Bytewise.pageIsIn, SuffixList.Bytewise.walk_eq, pure_bind]; rfl

theorem Bytewise.isFor_eq (types : TypeMask) (domains : TextSet) :
    Bytewise.isFor d types domains pageHost type =
      pure (d.isFor types domains pageHost type) := by
  simp only [Bytewise.isFor, pageIsIn_eq, ite_pure_or, ite_pure_and, Detector.isFor]

theorem Bytewise.isExcepted_eq (r : TrackerRule) :
    Bytewise.isExcepted d r pageHost type = pure (d.isExcepted r pageHost type) := by
  rw [Bytewise.isExcepted, isFor_eq, ite_pure_and, Detector.isExcepted]

theorem Bytewise.ruleApplies_eq (r : TrackerRule) (filter : Option Pattern) :
    Bytewise.ruleApplies d url pageHost type r filter =
      pure (d.ruleApplies url pageHost type r filter) := by
  rw [Bytewise.ruleApplies, isFor_eq, ite_pure_and, Detector.ruleApplies]

theorem Bytewise.firstRule?_eq (index : Nat) (rules : List (TrackerRule × Option Pattern)) :
    Bytewise.firstRule? d url pageHost type index rules =
      pure (d.firstRule? url pageHost type index rules) := by
  induction rules generalizing index with
  | nil => rfl
  | cons head rest ih =>
    obtain ⟨r, filter⟩ := head
    simp only [Bytewise.firstRule?, ruleApplies_eq, isExcepted_eq, pure_bind, ih,
      Detector.firstRule?]
    split
    · split <;> rfl
    · rfl

theorem Bytewise.isOwnPage_eq (owner : Option Entity) :
    Bytewise.isOwnPage d owner pageHost = pure (pageHost.any (d.isOwnPage owner)) := by
  cases owner with
  | none => cases pageHost <;> rfl
  | some owner =>
    cases pageHost with
    | none => rfl
    | some host =>
      simp only [Bytewise.isOwnPage, entity?_eq, pure_bind, Option.any_some, Detector.isOwnPage]
      cases d.entity? host <;> rfl

theorem Bytewise.verdict_eq (t : Tracker) :
    Bytewise.verdict d t url pageHost type = pure (d.verdict t url pageHost type) := by
  simp only [Bytewise.verdict, pageIsIn_eq, isOwnPage_eq, firstRule?_eq, pure_bind,
    Detector.verdict]
  split
  · rfl
  · split <;> rfl

theorem Bytewise.classify_eq (r : Request) : Bytewise.classify d r = pure (d.classify r) := by
  rw [Bytewise.classify, Url.Bytewise.normalize?_eq, pure_bind, Detector.classify]
  cases Url.normalize? r.resource with
  | none => rfl
  | some resource =>
    simp only [tracker?_eq, Url.Bytewise.host?_eq, verdict_eq, pure_bind, Option.bind_some]
    cases d.tracker? resource.host <;> rfl

end Detector

/-- No step by offsets fails, whatever the texts are, and the steps give what is said of texts. The
functions by bytes fail where a part of a text does not start and end at characters, where a byte or
a label is not there, and where a difference is below zero. -/
structure StaysInRange : Prop where
  /-- A host that is found is cut off at characters of the authority. -/
  exists_isSpanWithin : ∀ url i j, Url.hostSpan? url = some (i, j) →
    ∃ start stop, Url.schemeEnd? url = some start ∧
      Url.Bytewise.authorityEnd url.toList start = .ok stop ∧
        Url.IsSpanWithin url start i j stop
  /-- A slash can be put where the authority ends. -/
  exists_withSlashAt : ∀ url start, Url.schemeEnd? url = some start →
    ∃ stop after, Url.Bytewise.authorityEnd url.toList start = .ok stop ∧
      (⟨stop⟩ : String.Pos.Raw).IsValid url ∧
        Url.Bytewise.withSlashAt url.toList stop = .ok after
  schemeEnd? : ∀ url : String, Url.Bytewise.schemeEnd? url.toList = .ok (Url.schemeEnd? url)
  hostSpan? : ∀ url : String, Url.Bytewise.hostSpan? url.toList = .ok (Url.hostSpan? url)
  rawHost? : ∀ url, Url.Bytewise.rawHost? url = .ok (Url.rawHost? url)
  host? : ∀ url, Url.Bytewise.host? url = .ok (Url.host? url)
  normalize? : ∀ url, Url.Bytewise.normalize? url = .ok (Url.normalize? url)
  parent? : ∀ host, Host.Bytewise.parent? host = .ok (Host.parent? host)
  dropHost : ∀ pattern domain,
    Tracker.Bytewise.dropHost pattern domain = .ok (Tracker.dropHost pattern domain)
  commonDomains : ∀ s t,
    ContentRule.Bytewise.commonDomains s t = .ok (ContentRule.commonDomains s t)
  anyCovers : ∀ entries pageHost, Trigger.Bytewise.anyCovers entries pageHost =
    .ok (pageHost.any fun host => entries.any (Trigger.entryCovers host))
  walk : ∀ list host, SuffixList.Bytewise.walk list host = .ok (list.walk host)
  tracker? : ∀ d host, Detector.Bytewise.tracker? d host = .ok (d.tracker? host)
  entity? : ∀ d host, Detector.Bytewise.entity? d host = .ok (d.entity? host)
  classify : ∀ d r, Detector.Bytewise.classify d r = .ok (d.classify r)
  decide : ∀ ms r, Matcher.Bytewise.decide ms r = .ok (Matcher.decide ms r)

theorem staysInRange : StaysInRange where
  exists_isSpanWithin _ _ _ := Url.exists_isSpanWithin
  exists_withSlashAt _ _ := Url.exists_withSlashAt
  schemeEnd? := Url.Bytewise.schemeEnd?_toList
  hostSpan? := Url.Bytewise.hostSpan?_eq
  rawHost? := Url.Bytewise.rawHost?_eq
  host? := Url.Bytewise.host?_eq
  normalize? := Url.Bytewise.normalize?_eq
  parent? := Host.Bytewise.parent?_eq
  dropHost := Tracker.Bytewise.dropHost_eq
  commonDomains := ContentRule.Bytewise.commonDomains_eq
  anyCovers := Trigger.Bytewise.anyCovers_eq
  walk := SuffixList.Bytewise.walk_eq
  tracker? := Detector.Bytewise.tracker?_eq
  entity? := Detector.Bytewise.entity?_eq
  classify := Detector.Bytewise.classify_eq
  decide := Matcher.Bytewise.decide_eq

end

open scoped Pattern.Estimate

/-- The host behind a user whose last letter takes two bytes. -/
theorem exists_isSpanWithin_behindUser :
    Url.hostSpan? "https://zoë@t.example:8/ö" = some (13, 22) ∧
      ∃ start stop, Url.schemeEnd? "https://zoë@t.example:8/ö" = some start ∧
        Url.Bytewise.authorityEnd "https://zoë@t.example:8/ö".toList start = .ok stop ∧
          Url.IsSpanWithin "https://zoë@t.example:8/ö" start 13 22 stop := by
  have hspan : Url.hostSpan? "https://zoë@t.example:8/ö" = some (13, 22) := by decide +kernel
  exact ⟨hspan, staysInRange.exists_isSpanWithin _ _ _ hspan⟩

end Blocklist
