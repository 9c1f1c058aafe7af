import Blocklist.Proofs.ContentRule.Duplicates
import Blocklist.Proofs.ContentRule.Triggers
import Blocklist.Proofs.Detector.Decisions
import Blocklist.Proofs.Detector.Owners
import Blocklist.Proofs.Filter.Hosts
import Blocklist.Proofs.Tracker.NormalForm

/-! # The compiled rules of a tracker

What the rules of a tracker decide about a request: first the guard for the pages of its owner, then
the first rule that takes the request, and at last what is done about everything else. The rules
match only requests to the hosts of the tracker, unless a pattern lets the slash behind the host
go. -/

namespace Blocklist

open Pattern

theorem ContentRule.target?_eq {resource page : String} (kind : Option ResourceType)
    {r : Url.Resource} (h : Url.normalize? resource = some r) :
    Request.target? ⟨resource, page, kind.map .single⟩ =
      some ⟨r.url, Url.host? page, kind.map ResourceType.hostName⟩ := by
  cases kind <;> simp [Request.target?, h, TypeMask.isEmpty_single, TypeMask.hostName_single]

theorem ContentRule.urlFilter_of_mem_ofTracker {d : Dataset} {t : Tracker} {rule : ContentRule}
    (h : rule ∈ ofTracker d t) :
    rule.trigger.urlFilter = Filter.scope t.domain ∨
      ∃ r ∈ t.rules, rule.trigger.urlFilter = Tracker.urlFilter t.domain r := by
  rw [ofTracker] at h
  simp only [List.mem_append, List.mem_flatMap, List.mem_singleton] at h
  rcases h with (howner | ⟨r, hr, hrule⟩) | rfl
  · refine .inl ?_
    unfold ownerRules at howner
    split at howner
    · cases howner
    · split at howner
      · cases howner
      · rw [List.mem_singleton.mp howner]
        rfl
  · refine .inr ⟨r, hr, ?_⟩
    rw [ofTrackerRule] at hrule
    simp only [List.mem_append, List.mem_map, Option.mem_toList, List.mem_singleton] at hrule
    rcases hrule with ⟨trigger, htrigger, rfl⟩ | rfl
    · exact urlFilter_of_exceptionTrigger? htrigger
    · rfl
  · exact .inl rfl

variable [SizeLimit]

namespace ContentRule

/-! ## The first rule that matches -/

/-- What the first of some rules that matches a request does about it. -/
def firstAction (rs : List ContentRule) (target : Target) : Option ContentAction :=
  (rs.find? fun r => !r.isCosmetic && (Matcher.ofRule r).isMatch target).map (·.action)

theorem decide_ofRules_eq (rs : List ContentRule) (r : Request) :
    Matcher.decide (Matcher.ofRules rs) r = r.target?.bind (firstAction rs) := by
  simp only [Matcher.decide, Matcher.find?_ofRules, Option.map_map]
  rfl

variable {target : Target}

theorem firstAction_append (rs ss : List ContentRule) (target : Target) :
    firstAction (rs ++ ss) target = (firstAction rs target).or (firstAction ss target) := by
  rw [firstAction, List.find?_append]
  cases h : rs.find? fun r => !r.isCosmetic && (Matcher.ofRule r).isMatch target <;>
    simp [firstAction, h]

theorem firstAction_singleton (trigger : Trigger) (a : Action) (target : Target) :
    firstAction [⟨trigger, .ofAction a⟩] target =
      if trigger.applies target && Filter.isMatch trigger.urlFilter target.url
      then some (.ofAction a) else none := by
  have hplain : (ContentRule.mk trigger (.ofAction a)).isCosmetic = false := by
    cases a <;> rfl
  have hmatch : (Matcher.ofRule ⟨trigger, .ofAction a⟩).isMatch target =
      (trigger.applies target && Filter.isMatch trigger.urlFilter target.url) := rfl
  rw [firstAction, List.find?_singleton, hplain, hmatch]
  split <;> simp_all

/-- The rule that lets through what matches a filter on the pages of some domains. There is none
without domains. -/
theorem firstAction_forPages (filter : String) (domains : TextSet) (target : Target) :
    firstAction
        (if domains.isEmpty then []
        else [⟨(Trigger.forFilter filter).withDomains domains.toList, .ignorePreviousRules⟩])
        target =
      if target.pageHost.any (isCovered domains) && Filter.isMatch filter target.url
      then some .ignorePreviousRules else none := by
  by_cases hempty : domains.isEmpty
  · have hcovered : isCovered domains = fun _ => false := by
      funext host
      rw [isCovered, List.isEmpty_iff.mp hempty, List.any_nil]
    rw [if_pos hempty, hcovered]
    cases target.pageHost <;> rfl
  · rw [if_neg hempty]
    refine (firstAction_singleton _ .ignore target).trans ?_
    rw [Trigger.applies_withDomains, coversPage, Bool.eq_false_iff.mpr hempty, Bool.false_or]
    rfl

theorem firstAction_eq_none {rs : List ContentRule}
    (h : ∀ r ∈ rs, r.isCosmetic ∨ ¬ Filter.isMatch r.trigger.urlFilter target.url) :
    firstAction rs target = none := by
  rw [firstAction, Option.map_eq_none_iff, List.find?_eq_none]
  intro r hr
  rcases h r hr with hcosmetic | hfilter
  · simp [hcosmetic]
  · have hmatch : (Matcher.ofRule r).isMatch target =
        (r.trigger.applies target && Filter.isMatch r.trigger.urlFilter target.url) := rfl
    simp [hmatch, hfilter]

theorem firstAction_hidings (hidings : List ElementHiding) (target : Target) :
    firstAction (hidings.map hidingRule) target = none := by
  refine firstAction_eq_none fun r hr => .inl ?_
  obtain ⟨h, -, rfl⟩ := List.mem_map.mp hr
  rfl

/-! ## Rules of a tracker -/

theorem firstAction_exceptions (r : TrackerRule) (filter : String) (target : Target) :
    firstAction ((exceptionTrigger? r filter).toList.map (⟨·, .ignorePreviousRules⟩)) target =
      if (exceptionTrigger? r filter).any (·.applies target) && Filter.isMatch filter target.url
      then some .ignorePreviousRules else none := by
  cases h : exceptionTrigger? r filter with
  | none => rfl
  | some trigger =>
    have hsingle := firstAction_singleton trigger .ignore target
    rwa [urlFilter_of_exceptionTrigger? h] at hsingle

/-- Whether the compiled rules for a rule of a tracker take a request. They go by the names of kinds
and by covering domains. -/
def takes (domain : String) (target : Target) (r : TrackerRule) : Bool :=
  Filter.isMatch (Tracker.urlFilter domain r) target.url &&
    (r.types.admitsName target.typeName && coversPage r.domains target.pageHost)

/-- Whether the compiled rule for the exception of a rule is for a request. -/
def takesException (domain : String) (target : Target) (r : TrackerRule) : Bool :=
  (exceptionTrigger? r (Tracker.urlFilter domain r)).any (·.applies target)

/-- What the compiled rules for a rule do about a request that they take. -/
def actionOn (domain : String) (target : Target) (r : TrackerRule) : Action :=
  if takesException domain target r then .ignore else r.action

theorem firstAction_ofTrackerRule (domain : String) (r : TrackerRule) (target : Target) :
    firstAction (ofTrackerRule domain r) target =
      if takes domain target r then some (.ofAction (actionOn domain target r)) else none := by
  have hurlFilter :
      (((Trigger.forFilter (Tracker.urlFilter domain r)).withTypes r.types).withDomains
        r.domains.toList).urlFilter = Tracker.urlFilter domain r := rfl
  rw [ofTrackerRule, firstAction_append, firstAction_exceptions, firstAction_singleton, hurlFilter,
    Trigger.applies_eq, takes, actionOn, takesException]
  cases Filter.isMatch (Tracker.urlFilter domain r) target.url with
  | false => simp
  | true =>
    by_cases hexception : (exceptionTrigger? r (Tracker.urlFilter domain r)).any (·.applies target)
    -- The trigger for the exception is for no more than the one for the rule.
    · simp only [hexception, admitsName_and_coversPage_of_exceptionTrigger? hexception]
      rfl
    · simp only [hexception, Bool.false_eq_true, ↓reduceIte, Option.none_or, Bool.and_true,
        Bool.true_and]

/-- Of the rules of a tracker the first one that takes a request decides. -/
theorem firstAction_flatMap_ofTrackerRule (domain : String) (rules : List TrackerRule)
    (target : Target) :
    firstAction (rules.flatMap (ofTrackerRule domain)) target =
      (rules.find? (takes domain target)).map fun r => .ofAction (actionOn domain target r) := by
  induction rules with
  | nil => rfl
  | cons r rules ih =>
    rw [List.flatMap_cons, firstAction_append, firstAction_ofTrackerRule, ih, List.find?_cons]
    cases takes domain target r <;> rfl

/-! ## All rules for a tracker -/

/-- Whether the guard for the pages of the owner of a tracker is for a request. -/
def guards (d : Dataset) (t : Tracker) (target : Target) : Bool :=
  (d.ownerOf? t).any (fun owner => target.pageHost.any (isCovered owner.domains)) &&
    Filter.isMatch (Filter.scope t.domain) target.url

theorem firstAction_ownerRules (d : Dataset) (t : Tracker) (target : Target) :
    firstAction (ownerRules (Filter.scope t.domain) (d.ownerOf? t)) target =
      if guards d t target then some .ignorePreviousRules else none := by
  unfold guards
  cases d.ownerOf? t with
  | none => rfl
  | some owner => exact firstAction_forPages (Filter.scope t.domain) owner.domains target

theorem firstAction_ofTracker (d : Dataset) (t : Tracker) (target : Target) :
    firstAction (ofTracker d t) target =
      if guards d t target then some .ignorePreviousRules
      else ((t.rules.find? (takes t.domain target)).map fun r =>
          .ofAction (actionOn t.domain target r)).or
        (if Filter.isMatch (Filter.scope t.domain) target.url then some (.ofAction t.action)
        else none) := by
  have hlast := firstAction_singleton (.forFilter (Filter.scope t.domain)) t.action target
  have hscope : (Trigger.forFilter (Filter.scope t.domain)).urlFilter = Filter.scope t.domain := rfl
  rw [Trigger.applies_forFilter, hscope, Bool.true_and] at hlast
  rw [ofTracker, firstAction_append, firstAction_append, firstAction_ownerRules,
    firstAction_flatMap_ofTrackerRule, hlast]
  cases guards d t target <;> rfl

/-! ## Requests to other hosts -/

/-- The rules for a tracker decide about the requests that its scope takes, or a rule. -/
theorem firstAction_ofTracker_ne_none_iff {d : Dataset} {t : Tracker} :
    firstAction (ofTracker d t) target ≠ none ↔
      Filter.isMatch (Filter.scope t.domain) target.url ∨
        ∃ r ∈ t.rules, takes t.domain target r := by
  rw [firstAction_ofTracker, guards]
  cases hfind : t.rules.find? (takes t.domain target) with
  | none =>
    have hrules : ¬∃ r ∈ t.rules, takes t.domain target r := fun ⟨r, hr, htakes⟩ =>
      List.find?_eq_none.mp hfind r hr htakes
    rw [or_iff_left hrules]
    cases Filter.isMatch (Filter.scope t.domain) target.url with
    | false => simp
    | true => split <;> simp
  | some r =>
    have hrules : ∃ r ∈ t.rules, takes t.domain target r :=
      ⟨r, List.mem_of_find?_eq_some hfind, List.find?_some hfind⟩
    refine iff_of_true ?_ (.inr hrules)
    split <;> simp

section

variable {t : Tracker} (ht : t.IsNormal) {resource : Url.Resource} {text : String}
  (hresource : Url.normalize? text = some resource)

include ht hresource

/-- The filter for the domain of a tracker matches only URLs of its hosts. -/
theorem covers_of_isMatch_scope (h : Filter.isMatch (Filter.scope t.domain) resource.url) :
    Host.covers t.domain resource.host := by
  have hclear : IsClear (Filter.dropSlash "".toList) := isClear_nil
  exact (Filter.covers_of_isMatch (Host.isNormal_of_normalize? ht.domain) hresource hclear rfl h).2

/-- A rule that keeps the slash behind the host matches only URLs of the hosts of its tracker. -/
theorem covers_of_isMatch_urlFilter {r : TrackerRule} (hr : r ∈ t.rules)
    (hkeeps : Filter.keepsSlash (Filter.dropSlash r.pattern.toList))
    (h : Filter.isMatch (Tracker.urlFilter t.domain r) resource.url) :
    Host.covers t.domain resource.host := by
  have hclear : IsClear r.pattern.toList := by
    simpa [IsClear, Filter.isSupported] using (ht.rules r hr).supported
  exact (Filter.covers_of_isMatch (Host.isNormal_of_normalize? ht.domain) hresource
    (Filter.isClear_dropSlash hclear) hkeeps h).2

end

end ContentRule

/-! ## The rules of a tracker in the detector -/

namespace Detector

open ContentRule

variable {det : Detector} {target : Target} {kind : Option ResourceType}

/-- A domain that is looked up for a page covers it. -/
theorem any_isCovered_of_pageIsIn {domains : TextSet} {pageHost : Option String}
    (h : det.pageIsIn domains pageHost) : pageHost.any (isCovered domains) := by
  obtain ⟨host, rfl, d, hwalk, hd⟩ := pageIsIn_iff.mp h
  exact isCovered_iff.mpr ⟨d, hd, SuffixList.covers_of_mem_walk hwalk⟩

theorem coversPage_of_pageIsIn {domains : TextSet} {pageHost : Option String}
    (h : domains.isEmpty || det.pageIsIn domains pageHost) : coversPage domains pageHost := by
  rw [coversPage, Bool.or_eq_true]
  exact (Bool.or_eq_true_iff.mp h).imp_right any_isCovered_of_pageIsIn

/-- The compiled rules take all requests that the detector is for. -/
theorem admitsName_and_coversPage_of_isFor {types : TypeMask} {domains : TextSet}
    {pageHost : Option String} (h : det.isFor types domains pageHost (kind.map .single)) :
    types.admitsName (kind.map ResourceType.hostName) && coversPage domains pageHost := by
  rw [isFor, Bool.and_eq_true] at h
  rw [Bool.and_eq_true]
  exact ⟨TypeMask.admitsName_iff.mpr (.inl h.1), coversPage_of_pageIsIn h.2⟩

/-- Where a rule admits the kind, its exception is for the requests of the common kinds. -/
theorem isExcepted_iff_commonTypes? {r : TrackerRule} {pageHost : Option String}
    (htypes : r.types.admits (kind.map .single)) :
    det.isExcepted r pageHost (kind.map .single) ↔
      ¬r.exceptions.isEmpty ∧ ∃ types, commonTypes? r.types r.exceptions.types = some types ∧
        det.isFor types r.exceptions.domains pageHost (kind.map .single) := by
  have hcommon := any_admits_commonTypes? r.types r.exceptions.types kind
  rw [htypes, Bool.true_and] at hcommon
  rw [isExcepted, isFor, ← hcommon]
  cases commonTypes? r.types r.exceptions.types <;> simp [isFor]

/-- The compiled rule for an exception takes all requests that are excepted. -/
theorem takesException_of_isExcepted {domain : String} {r : TrackerRule}
    (hname : target.typeName = kind.map ResourceType.hostName)
    (hfor : det.isFor r.types r.domains target.pageHost (kind.map .single))
    (h : det.isExcepted r target.pageHost (kind.map .single)) : takesException domain target r := by
  rw [isFor, Bool.and_eq_true] at hfor
  obtain ⟨hnonempty, types, htypes, hexception⟩ := (isExcepted_iff_commonTypes? hfor.1).mp h
  have hnames := admitsName_and_coversPage_of_isFor hexception
  rw [Bool.and_eq_true] at hnames
  rw [takesException, any_exceptionTrigger?, htypes, Option.any_some, hname, hnames.1, hnames.2,
    coversPage_of_pageIsIn hfor.2]
  simpa using hnonempty

variable {domain : String} {rules : List TrackerRule}
  (hname : target.typeName = kind.map ResourceType.hostName)

include hname

theorem takes_of_ruleApplies {r : TrackerRule}
    (h : det.ruleApplies target.url target.pageHost (kind.map .single) r
      (Filter.compile (Tracker.urlFilter domain r)).toOption) : takes domain target r := by
  rw [ruleApplies, Bool.and_eq_true] at h
  rw [takes, hname, admitsName_and_coversPage_of_isFor h.2, Bool.and_true]
  exact h.1

theorem firstRule?_eq_none_of_find?_takes (hfind : rules.find? (takes domain target) = none)
    (index : Nat) :
    det.firstRule? target.url target.pageHost (kind.map .single) index
      (rules.zip (rules.map fun r =>
        (Filter.compile (Tracker.urlFilter domain r)).toOption)) = none := by
  induction rules generalizing index with
  | nil => rfl
  | cons r rules ih =>
    rw [List.find?_cons] at hfind
    split at hfind
    · cases hfind
    · rename_i htakes
      rw [List.map_cons, List.zip_cons_cons, firstRule?, if_neg, ih hfind]
      intro happlies
      rw [takes_of_ruleApplies hname happlies] at htakes
      cases htakes

/-- If the detector is for the first rule that the compiled rules take, it goes by this rule. -/
theorem firstRule?_of_find?_takes {r : TrackerRule}
    (hfind : rules.find? (takes domain target) = some r)
    (hfor : det.isFor r.types r.domains target.pageHost (kind.map .single)) (index : Nat) :
    (det.firstRule? target.url target.pageHost (kind.map .single) index
      (rules.zip (rules.map fun r =>
        (Filter.compile (Tracker.urlFilter domain r)).toOption))).map Prod.fst =
      some (if det.isExcepted r target.pageHost (kind.map .single) then .ignore else r.action) := by
  induction rules generalizing index with
  | nil => cases hfind
  | cons s rules ih =>
    rw [List.find?_cons] at hfind
    rw [List.map_cons, List.zip_cons_cons, firstRule?]
    split at hfind
    · rename_i htakes
      obtain rfl := Option.some.inj hfind
      rw [takes, Bool.and_eq_true] at htakes
      have happlies : det.ruleApplies target.url target.pageHost (kind.map .single) s
          (Filter.compile (Tracker.urlFilter domain s)).toOption := by
        rw [ruleApplies, hfor, Bool.and_true]
        exact htakes.1
      rw [if_pos happlies]
      split <;> rfl
    · rename_i htakes
      rw [if_neg, ih hfind]
      intro happlies
      rw [takes_of_ruleApplies hname happlies] at htakes
      cases htakes

end Detector

/-! ## Owners -/

namespace Detector

open ContentRule

/-- The guard for the owner of a tracker covers the pages of the owner. -/
theorem any_isCovered_of_isOwnPage {det : Detector} (hnames : ByName det.dataset.entities)
    {t : Tracker} {pageHost : Option String}
    (h : pageHost.any (det.isOwnPage (det.dataset.ownerOf? t))) :
    (det.dataset.ownerOf? t).any fun owner => pageHost.any (isCovered owner.domains) := by
  obtain ⟨host, rfl, hown⟩ := (Option.any_eq_true _ _).mp h
  obtain ⟨owner, howner, hpage⟩ := (isOwnPage_iff hnames).mp hown
  obtain ⟨-, k, hk, hwalk, -⟩ := (entity?_eq_some_iff hnames).mp hpage
  rw [howner]
  exact isCovered_iff.mpr ⟨k, hk, SuffixList.covers_of_mem_walk hwalk⟩

end Detector

end Blocklist
