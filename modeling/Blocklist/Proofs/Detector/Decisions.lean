import Blocklist.Pattern.Estimate
import Blocklist.Proofs.Detector.Owners
import Blocklist.Proofs.ResourceType

/-! # Decisions and their reasons

What is decided about a request is given by rules of precedence: trusted pages come first, then the
pages of the owner of the tracker, then the rules of the tracker in their order, and last its own
action. The reason of a decision tells which of these applied. Main statement: `classify_iff`. -/

namespace Blocklist.Detector

/-! ## Kinds of resources -/

theorem admits_iff {m : TypeMask} {type : Option TypeMask} :
    m.admits type ↔ (∀ kind, m.contains kind = false) ∨
      ∃ requested kind, type = some requested ∧ requested.contains kind ∧ m.contains kind := by
  have hinter : ∀ n : TypeMask, (!(m.inter n).isEmpty) = true ↔
      ∃ kind, n.contains kind ∧ m.contains kind := by
    intro n
    rw [Bool.not_eq_true', ← Bool.not_eq_true, TypeMask.isEmpty_iff]
    simp [TypeMask.contains_inter, and_comm]
  rw [TypeMask.admits, Bool.or_eq_true, TypeMask.isEmpty_iff]
  cases type with
  | none => simp
  | some n => simp [hinter]

/-! ## What a decision rests on -/

section

variable [Pattern.SizeLimit]

/-- Whether the first domain of a host for which there is something is a given one. -/
def FindsFirst {α : Type} (d : Detector) (f : String → Option α) (host domain : String) (a : α) :
    Prop :=
  ∃ before after, d.suffixes.walk host = before ++ domain :: after ∧ f domain = some a ∧
    ∀ k ∈ before, f k = none

/-- A request to a tracker. -/
structure TrackerRequest where
  tracker : Tracker
  /-- The URL in normal form. -/
  url : String
  pageHost : Option String
  type : Option TypeMask

/-- Whether a page has a host that belongs to one of some domains. -/
def IsOn (d : Detector) (domains : TextSet) (pageHost : Option String) : Prop :=
  ∃ host, pageHost = some host ∧ ∃ k ∈ d.suffixes.walk host, k ∈ domains

/-- Whether a page has a host that the owner of a tracker owns. -/
def IsOwn (d : Detector) (t : Tracker) (pageHost : Option String) : Prop :=
  ∃ host owner k, pageHost = some host ∧ d.dataset.ownerOf? t = some owner ∧
    d.FindsFirst d.dataset.entityForDomain? host k owner

/-- Whether something for some kinds of resources and some pages is for a request. -/
structure Suits (d : Detector) (types : TypeMask) (domains : TextSet) (x : TrackerRequest) :
    Prop where
  type : (∀ kind, types.contains kind = false) ∨
    ∃ requested kind, x.type = some requested ∧ requested.contains kind ∧ types.contains kind
  page : (∀ k, k ∉ domains) ∨ d.IsOn domains x.pageHost

/-- Whether the rule of the tracker with an index is for a request. -/
structure RuleSuits (d : Detector) (x : TrackerRequest) (index : Nat) (r : TrackerRule) :
    Prop where
  rule : x.tracker.rules[index]? = some r
  filter : ∃ p, Filter.compile (Tracker.urlFilter x.tracker.domain r) = .ok p ∧ p.isMatch x.url
  suits : d.Suits r.types r.domains x

/-- Whether a rule is for a request and none before it is. -/
structure FirstRule (d : Detector) (x : TrackerRequest) (index : Nat) (r : TrackerRule) :
    Prop where
  suits : d.RuleSuits x index r
  first : ∀ j s, j < index → ¬d.RuleSuits x j s

/-- Whether a rule has an exception, and that is for a request. -/
structure Excepts (d : Detector) (x : TrackerRequest) (r : TrackerRule) : Prop where
  nonempty : (∃ k, k ∈ r.exceptions.domains) ∨ ∃ kind, r.exceptions.types.contains kind
  suits : d.Suits r.exceptions.types r.exceptions.domains x

/-- What is decided about a request to a tracker, and why. -/
inductive Decides (d : Detector) (x : TrackerRequest) : Action → Reason → Prop where
  | trustedSite (htrusted : d.IsOn d.trustedSites x.pageHost) : Decides d x .ignore .trustedSite
  | sameEntity (htrusted : ¬d.IsOn d.trustedSites x.pageHost)
      (hown : d.IsOwn x.tracker x.pageHost) : Decides d x .ignore .sameEntity
  | ruleException {index r} (htrusted : ¬d.IsOn d.trustedSites x.pageHost)
      (hown : ¬d.IsOwn x.tracker x.pageHost) (hrule : d.FirstRule x index r)
      (hexcepts : d.Excepts x r) : Decides d x .ignore (.ruleException index)
  | rule {index r} (htrusted : ¬d.IsOn d.trustedSites x.pageHost)
      (hown : ¬d.IsOwn x.tracker x.pageHost) (hrule : d.FirstRule x index r)
      (hexcepts : ¬d.Excepts x r) : Decides d x r.action (.rule index)
  | default (htrusted : ¬d.IsOn d.trustedSites x.pageHost)
      (hown : ¬d.IsOwn x.tracker x.pageHost) (hrules : ∀ index r, ¬d.RuleSuits x index r) :
      Decides d x x.tracker.action .default

/-! ## The conditions -/

variable {d : Detector} {x : TrackerRequest}

theorem findSome?_walk_iff {α : Type} {f : String → Option α} {host : String} {a : α} :
    (d.suffixes.walk host).findSome? f = some a ↔ ∃ k, d.FindsFirst f host k a := by
  rw [List.findSome?_eq_some_iff]
  constructor
  · rintro ⟨before, k, after, hwalk, ha, hbefore⟩
    exact ⟨k, before, after, hwalk, ha, hbefore⟩
  · rintro ⟨k, before, after, hwalk, ha, hbefore⟩
    exact ⟨before, k, after, hwalk, ha, hbefore⟩

theorem pageIsIn_iff {domains : TextSet} {pageHost : Option String} :
    d.pageIsIn domains pageHost ↔ d.IsOn domains pageHost := by
  cases pageHost with
  | none => simp [pageIsIn, IsOn]
  | some host => simp [pageIsIn, IsOn, TextSet.contains_iff]

theorem isFor_iff {types : TypeMask} {domains : TextSet} :
    d.isFor types domains x.pageHost x.type ↔ d.Suits types domains x := by
  rw [isFor, Bool.and_eq_true, Bool.or_eq_true, admits_iff, pageIsIn_iff, TextSet.isEmpty_iff]
  constructor
  · rintro ⟨htype, hpage⟩
    exact ⟨htype, hpage⟩
  · rintro ⟨htype, hpage⟩
    exact ⟨htype, hpage⟩

theorem isExcepted_iff {r : TrackerRule} :
    d.isExcepted r x.pageHost x.type ↔ d.Excepts x r := by
  have hempty : (!r.exceptions.isEmpty) = true ↔
      (∃ k, k ∈ r.exceptions.domains) ∨ ∃ kind, r.exceptions.types.contains kind := by
    rw [RuleExceptions.isEmpty, Bool.not_eq_true', Bool.and_eq_false_iff, ← Bool.not_eq_true,
      ← Bool.not_eq_true, TextSet.isEmpty_iff, TypeMask.isEmpty_iff]
    simp
  rw [isExcepted, Bool.and_eq_true, hempty, isFor_iff]
  constructor
  · rintro ⟨hnonempty, hsuits⟩
    exact ⟨hnonempty, hsuits⟩
  · rintro ⟨hnonempty, hsuits⟩
    exact ⟨hnonempty, hsuits⟩

theorem any_isOwnPage_iff (hnames : ByName d.dataset.entities) {t : Tracker}
    {pageHost : Option String} :
    pageHost.any (d.isOwnPage (d.dataset.ownerOf? t)) ↔ d.IsOwn t pageHost := by
  cases pageHost with
  | none => simp [IsOwn]
  | some host =>
    rw [Option.any_some, isOwnPage_iff hnames]
    simp only [entity?, findSome?_walk_iff]
    constructor
    · rintro ⟨owner, howner, k, hfirst⟩
      exact ⟨host, owner, k, rfl, howner, hfirst⟩
    · rintro ⟨host', owner, k, hhost, howner, hfirst⟩
      obtain rfl := Option.some.inj hhost
      exact ⟨owner, howner, k, hfirst⟩

/-! ## The first rule -/

/-- Which rule decides about a request depends on the suffix list alone. -/
theorem firstRule?_congr {d e : Detector} (h : d.suffixes = e.suffixes) (url : String)
    (pageHost : Option String) (type : Option TypeMask) (index : Nat)
    (rules : List (TrackerRule × Option Pattern)) :
    d.firstRule? url pageHost type index rules = e.firstRule? url pageHost type index rules := by
  have hfor : d.isFor = e.isFor := by
    funext types domains pageHost type
    rw [isFor, isFor, pageIsIn, pageIsIn, h]
  induction rules generalizing index with
  | nil => rfl
  | cons rule rules ih =>
    rw [firstRule?, firstRule?, ih, ruleApplies, ruleApplies, isExcepted, isExcepted, hfor]

/-- What a rule that is for a request decides. -/
def ruleOutcome (d : Detector) (x : TrackerRequest) (index : Nat) (r : TrackerRule) :
    Action × Reason :=
  if d.isExcepted r x.pageHost x.type then (.ignore, .ruleException index)
  else (r.action, .rule index)

theorem firstRule?_cons (d : Detector) (x : TrackerRequest) (index : Nat) (r : TrackerRule)
    (filter : Option Pattern) (rest : List (TrackerRule × Option Pattern)) :
    d.firstRule? x.url x.pageHost x.type index ((r, filter) :: rest) =
      if d.ruleApplies x.url x.pageHost x.type r filter then some (d.ruleOutcome x index r)
      else d.firstRule? x.url x.pageHost x.type (index + 1) rest := by
  rw [firstRule?, ruleOutcome]
  split
  · split <;> rfl
  · rfl

/-- The rules that have been passed over are for other requests. -/
theorem firstRule?_eq_some_iff {rules : List (TrackerRule × Option Pattern)} {index : Nat}
    {out : Action × Reason} :
    d.firstRule? x.url x.pageHost x.type index rules = some out ↔
      ∃ i r filter, rules[i]? = some (r, filter) ∧
        d.ruleApplies x.url x.pageHost x.type r filter ∧
        (∀ j s g, j < i → rules[j]? = some (s, g) →
          ¬d.ruleApplies x.url x.pageHost x.type s g) ∧
        d.ruleOutcome x (index + i) r = out := by
  induction rules generalizing index with
  | nil => simp [firstRule?]
  | cons rule rest ih =>
    obtain ⟨r, filter⟩ := rule
    rw [firstRule?_cons]
    by_cases happlies : d.ruleApplies x.url x.pageHost x.type r filter
    · rw [if_pos happlies, Option.some.injEq]
      constructor
      · intro hout
        exact ⟨0, r, filter, rfl, happlies, fun j _ _ hj => absurd hj (Nat.not_lt_zero j), hout⟩
      · rintro ⟨i, s, g, hget, -, hbefore, hout⟩
        cases i with
        | zero =>
          obtain ⟨rfl, rfl⟩ := Prod.mk.inj (Option.some.inj hget)
          exact hout
        | succ i => exact absurd happlies (hbefore 0 r filter (Nat.succ_pos i) rfl)
    · rw [if_neg happlies, ih]
      constructor
      · rintro ⟨i, s, g, hget, hs, hbefore, hout⟩
        refine ⟨i + 1, s, g, hget, hs, fun j s' g' hj hget' => ?_, ?_⟩
        · cases j with
          | zero =>
            obtain ⟨rfl, rfl⟩ := Prod.mk.inj (Option.some.inj hget')
            exact happlies
          | succ j => exact hbefore j s' g' (Nat.lt_of_succ_lt_succ hj) hget'
        · rwa [Nat.add_right_comm] at hout
      · rintro ⟨i, s, g, hget, hs, hbefore, hout⟩
        cases i with
        | zero =>
          obtain ⟨rfl, rfl⟩ := Prod.mk.inj (Option.some.inj hget)
          exact absurd hs happlies
        | succ i =>
          refine ⟨i, s, g, hget, hs, fun j s' g' hj hget' => ?_, ?_⟩
          · exact hbefore (j + 1) s' g' (Nat.succ_lt_succ hj) hget'
          · rwa [Nat.add_right_comm]

theorem firstRule?_eq_none_iff {rules : List (TrackerRule × Option Pattern)} {index : Nat} :
    d.firstRule? x.url x.pageHost x.type index rules = none ↔
      ∀ r filter, (r, filter) ∈ rules → ¬d.ruleApplies x.url x.pageHost x.type r filter := by
  induction rules generalizing index with
  | nil => simp [firstRule?]
  | cons rule rest ih =>
    obtain ⟨r, filter⟩ := rule
    rw [firstRule?_cons]
    by_cases happlies : d.ruleApplies x.url x.pageHost x.type r filter
    · rw [if_pos happlies]
      simp only [reduceCtorEq, false_iff]
      exact fun h => h r filter List.mem_cons_self happlies
    · rw [if_neg happlies, ih]
      simp only [List.mem_cons, Prod.mk.injEq]
      constructor
      · rintro h s g (⟨rfl, rfl⟩ | hmem)
        · exact happlies
        · exact h s g hmem
      · intro h s g hmem
        exact h s g (.inr hmem)

/-! ## Verdicts -/

/-- The rules of a tracker stand beside their filters. -/
theorem ruleSuits_iff {index : Nat} {r : TrackerRule} :
    d.RuleSuits x index r ↔
      ∃ filter, (x.tracker.rules.zip (ruleFilters x.tracker))[index]? = some (r, filter) ∧
        d.ruleApplies x.url x.pageHost x.type r filter := by
  have hzip : x.tracker.rules.zip (ruleFilters x.tracker) = x.tracker.rules.map fun r =>
      (r, (Filter.compile (Tracker.urlFilter x.tracker.domain r)).toOption) := by
    rw [ruleFilters, List.map_prod_left_eq_zip]
  have hget : ∀ filter, (x.tracker.rules.zip (ruleFilters x.tracker))[index]? = some (r, filter) ↔
      x.tracker.rules[index]? = some r ∧
        (Filter.compile (Tracker.urlFilter x.tracker.domain r)).toOption = filter := by
    intro filter
    rw [hzip, List.getElem?_map, Option.map_eq_some_iff]
    simp
  have hmatch : (Filter.compile (Tracker.urlFilter x.tracker.domain r)).toOption.any
      (·.isMatch x.url) ↔
        ∃ p, Filter.compile (Tracker.urlFilter x.tracker.domain r) = .ok p ∧ p.isMatch x.url := by
    cases Filter.compile (Tracker.urlFilter x.tracker.domain r) <;> simp [Except.toOption]
  simp only [hget, ruleApplies, Bool.and_eq_true, isFor_iff]
  constructor
  · rintro ⟨hrule, hfilter, hsuits⟩
    exact ⟨_, ⟨hrule, rfl⟩, hmatch.mpr hfilter, hsuits⟩
  · rintro ⟨filter, ⟨hrule, rfl⟩, hfilter, hsuits⟩
    exact ⟨hrule, hmatch.mp hfilter, hsuits⟩

theorem firstRule?_eq_some_iff_firstRule {out : Action × Reason} :
    d.firstRule? x.url x.pageHost x.type 0 (x.tracker.rules.zip (ruleFilters x.tracker)) =
        some out ↔
      ∃ index r, d.FirstRule x index r ∧ d.ruleOutcome x index r = out := by
  rw [firstRule?_eq_some_iff]
  constructor
  · rintro ⟨index, r, filter, hget, happlies, hbefore, hout⟩
    refine ⟨index, r, ⟨ruleSuits_iff.mpr ⟨filter, hget, happlies⟩, fun j s hj hs => ?_⟩, ?_⟩
    · obtain ⟨g, hget', happlies'⟩ := ruleSuits_iff.mp hs
      exact hbefore j s g hj hget' happlies'
    · rwa [Nat.zero_add] at hout
  · rintro ⟨index, r, hrule, hout⟩
    obtain ⟨filter, hget, happlies⟩ := ruleSuits_iff.mp hrule.suits
    refine ⟨index, r, filter, hget, happlies, fun j s g hj hget' happlies' => ?_, ?_⟩
    · exact hrule.first j s hj (ruleSuits_iff.mpr ⟨g, hget', happlies'⟩)
    · rwa [Nat.zero_add]

theorem firstRule?_eq_none_iff_ruleSuits :
    d.firstRule? x.url x.pageHost x.type 0 (x.tracker.rules.zip (ruleFilters x.tracker)) = none ↔
      ∀ index r, ¬d.RuleSuits x index r := by
  rw [firstRule?_eq_none_iff]
  constructor
  · intro h index r hsuits
    obtain ⟨filter, hget, happlies⟩ := ruleSuits_iff.mp hsuits
    exact h r filter (List.mem_of_getElem? hget) happlies
  · intro h r filter hmem happlies
    obtain ⟨index, hget⟩ := List.mem_iff_getElem?.mp hmem
    exact h index r (ruleSuits_iff.mpr ⟨filter, hget, happlies⟩)

section

variable (hnames : ByName d.dataset.entities)
  (hfilters : d.filtersOf x.tracker = ruleFilters x.tracker)

include hnames hfilters

/-- The verdict about a request follows the rules of precedence. -/
theorem decides_verdict :
    d.Decides x (d.verdict x.tracker x.url x.pageHost x.type).1
      (d.verdict x.tracker x.url x.pageHost x.type).2 := by
  rw [verdict, hfilters]
  by_cases htrusted : d.IsOn d.trustedSites x.pageHost
  · rw [if_pos (pageIsIn_iff.mpr htrusted)]
    exact .trustedSite htrusted
  rw [if_neg fun h => htrusted (pageIsIn_iff.mp h)]
  by_cases hown : d.IsOwn x.tracker x.pageHost
  · rw [if_pos ((any_isOwnPage_iff hnames).mpr hown)]
    exact .sameEntity htrusted hown
  rw [if_neg fun h => hown ((any_isOwnPage_iff hnames).mp h)]
  cases hrule : d.firstRule? x.url x.pageHost x.type 0
      (x.tracker.rules.zip (ruleFilters x.tracker)) with
  | none => exact .default htrusted hown (firstRule?_eq_none_iff_ruleSuits.mp hrule)
  | some out =>
    obtain ⟨index, r, hfirst, rfl⟩ := firstRule?_eq_some_iff_firstRule.mp hrule
    rw [Option.getD_some, ruleOutcome]
    by_cases hexcepts : d.Excepts x r
    · rw [if_pos (isExcepted_iff.mpr hexcepts)]
      exact .ruleException htrusted hown hfirst hexcepts
    · rw [if_neg fun h => hexcepts (isExcepted_iff.mp h)]
      exact .rule htrusted hown hfirst hexcepts

/-- The rules of precedence allow no other decision. -/
theorem Decides.verdict_eq {action : Action} {reason : Reason} (h : d.Decides x action reason) :
    d.verdict x.tracker x.url x.pageHost x.type = (action, reason) := by
  rw [verdict, hfilters]
  cases h with
  | trustedSite htrusted => rw [if_pos (pageIsIn_iff.mpr htrusted)]
  | sameEntity htrusted hown =>
    rw [if_neg fun h => htrusted (pageIsIn_iff.mp h), if_pos ((any_isOwnPage_iff hnames).mpr hown)]
  | ruleException htrusted hown hrule hexcepts =>
    rw [if_neg fun h => htrusted (pageIsIn_iff.mp h),
      if_neg fun h => hown ((any_isOwnPage_iff hnames).mp h),
      firstRule?_eq_some_iff_firstRule.mpr ⟨_, _, hrule, rfl⟩, Option.getD_some, ruleOutcome,
      if_pos (isExcepted_iff.mpr hexcepts)]
  | rule htrusted hown hrule hexcepts =>
    rw [if_neg fun h => htrusted (pageIsIn_iff.mp h),
      if_neg fun h => hown ((any_isOwnPage_iff hnames).mp h),
      firstRule?_eq_some_iff_firstRule.mpr ⟨_, _, hrule, rfl⟩, Option.getD_some, ruleOutcome,
      if_neg fun h => hexcepts (isExcepted_iff.mp h)]
  | default htrusted hown hrules =>
    rw [if_neg fun h => htrusted (pageIsIn_iff.mp h),
      if_neg fun h => hown ((any_isOwnPage_iff hnames).mp h),
      firstRule?_eq_none_iff_ruleSuits.mpr hrules, Option.getD_none]

theorem verdict_eq_iff {action : Action} {reason : Reason} :
    d.verdict x.tracker x.url x.pageHost x.type = (action, reason) ↔
      d.Decides x action reason := by
  constructor
  · intro h
    have hdecides := decides_verdict hnames hfilters
    rwa [h] at hdecides
  · exact fun h => h.verdict_eq hnames hfilters

end

/-! ## Classifications -/

/-- Whether a classification tells what is decided about a request and why. -/
structure Explains (d : Detector) (q : Request) (resource : Url.Resource) (t : Tracker)
    (c : Classification) : Prop where
  accepted : Url.normalize? q.resource = some resource
  /-- The tracker has the first domain on the way up from the host that any tracker has. -/
  found : d.FindsFirst d.dataset.tracker? resource.host c.trackerDomain t
  owner : c.entity = d.dataset.ownerOf? t
  decides : d.Decides ⟨t, resource.url, Url.host? q.page, q.type⟩ c.action c.reason

theorem classify_eq_none_iff {q : Request} :
    d.classify q = none ↔
      Url.normalize? q.resource = none ∨
        ∃ resource, Url.normalize? q.resource = some resource ∧
          ∀ k ∈ d.suffixes.walk resource.host, d.dataset.tracker? k = none := by
  rw [classify]
  cases Url.normalize? q.resource with
  | none => simp
  | some resource => simp [tracker?]

theorem filtersOf_eq {t : Tracker} (h : d.dataset.tracker? t.domain = some t) :
    d.filtersOf t = ruleFilters t := by
  rw [filtersOf, d.filters_eq, TextMap.get?_map]
  exact congrArg (fun t => (Option.map ruleFilters t).getD []) h

theorem classify_eq_some_iff {ts : List Tracker} {es : List Entity}
    (hdata : d.dataset = .build ts es) {q : Request} {c : Classification} :
    d.classify q = some c ↔ ∃ resource t, d.Explains q resource t c := by
  have hnames : ByName d.dataset.entities := hdata ▸ Dataset.byName_build ts es
  have hverdict : ∀ k t (resource : Url.Resource), d.dataset.tracker? k = some t →
      t.domain = k ∧ ∀ action reason,
        d.verdict t resource.url (Url.host? q.page) q.type = (action, reason) ↔
          d.Decides ⟨t, resource.url, Url.host? q.page, q.type⟩ action reason := by
    intro k t resource ht
    obtain rfl := (Dataset.isNormal_of_tracker?_build (hdata ▸ ht)).2
    exact ⟨rfl, fun _ _ =>
      verdict_eq_iff (x := ⟨t, resource.url, Url.host? q.page, q.type⟩) hnames (filtersOf_eq ht)⟩
  rw [classify]
  simp only [Option.bind_eq_some_iff, Option.map_eq_some_iff, tracker?, findSome?_walk_iff]
  constructor
  · rintro ⟨resource, hresource, t, ⟨k, hfirst⟩, rfl⟩
    have ⟨_, _, _, ht, _⟩ := hfirst
    obtain ⟨hdomain, hdecides⟩ := hverdict k t resource ht
    refine ⟨resource, t, hresource, ?_, rfl, (hdecides _ _).mp rfl⟩
    exact hdomain.symm ▸ hfirst
  · rintro ⟨resource, t, h⟩
    have ⟨_, _, _, ht, _⟩ := h.found
    obtain ⟨hdomain, hdecides⟩ := hverdict c.trackerDomain t resource ht
    refine ⟨resource, h.accepted, t, ⟨_, h.found⟩, ?_⟩
    rw [(hdecides _ _).mpr h.decides, hdomain, ← h.owner]

/-- A detector over a built dataset gives a classification exactly for the requests to its trackers,
and that is the one that the rules of precedence explain. -/
theorem classify_iff {ts : List Tracker} {es : List Entity} (hdata : d.dataset = .build ts es)
    (q : Request) :
    (d.classify q = none ↔
        Url.normalize? q.resource = none ∨
          ∃ resource, Url.normalize? q.resource = some resource ∧
            ∀ k ∈ d.suffixes.walk resource.host, d.dataset.tracker? k = none) ∧
      ∀ c, d.classify q = some c ↔ ∃ resource t, d.Explains q resource t c :=
  ⟨classify_eq_none_iff, fun _ => classify_eq_some_iff hdata⟩

end

open scoped Pattern.Estimate

private def beaconTracker : Tracker :=
  { Tracker.forDomain "t.example" .block with
    owner := some "T Co"
    rules :=
      [{ TrackerRule.forPattern "beacon" .ignore with types := .single .image },
        { TrackerRule.forPattern "" .ignore with
          domains := .ofList ["blog.example"]
          exceptions := ⟨.ofList ["shop.blog.example"], .empty⟩ }] }

private def beaconDetector : Detector :=
  (ofDataset (.build [beaconTracker] [.named "T Co" ["t-site.example"]])).trust "trusted.example"

/-- A request about which the second rule decides, as its kind is not known, and one about which
nothing is decided. -/
theorem classify_iff_beacon :
    (∃ resource t, beaconDetector.Explains
      ⟨"https://cdn.t.example/beacon", "https://www.blog.example/", none⟩ resource t
      ⟨.ignore, "t.example", some (.named "T Co" ["t-site.example"]), .rule 1⟩) ∧
      beaconDetector.classify ⟨"https://t.test/beacon", "https://www.blog.example/", none⟩ =
        none := by
  constructor
  · exact ((classify_iff rfl _).2 _).mp (by decide +kernel)
  · refine (classify_iff rfl _).1.mpr (.inr ⟨⟨"https://t.test/beacon", "t.test"⟩, ?_⟩)
    decide +kernel

end Blocklist.Detector
