import Blocklist.Pattern.Estimate
import Blocklist.Proofs.ContentRule.Blocks
import Blocklist.Proofs.ContentRule.Order
import Mathlib.Data.List.Basic

/-! # The compiled rules and the detector

The first compiled rule that matches a request decides about it what the detector decides, apart
from the requests where names of kinds and covering domains tell something else than kinds and the
domains that are looked up. The rules of other trackers in front are silent, as they match only
requests to the hosts of these trackers, and a tracker with a longer domain comes first. Main
statement: `agrees_iff_not_departs`. -/

namespace Blocklist

open Pattern

theorem ContentRule.some_ofAction_eq_map_iff {a : Action} {found : Option Action} :
    some (ContentAction.ofAction a) = found.map .ofAction ↔ found = some a := by
  cases found with
  | none => simp
  | some b => cases a <;> cases b <;> simp [ContentAction.ofAction]

section

variable [SizeLimit]

/-! ## Trusted sites -/

namespace Detector

/-- The detector for a dataset with a suffix list and some trusted sites. -/
def configured (d : Dataset) (list : SuffixList) (sites : List String) : Detector :=
  ((ofDataset d).withSuffixes list).trustAll sites

theorem trustAll_eq (det : Detector) (sites : List String) :
    det.trustAll sites =
      { det with trustedSites :=
          (sites.filterMap Host.normalize?).foldl TextSet.insert det.trustedSites } := by
  induction sites generalizing det with
  | nil => rfl
  | cons site sites ih =>
    rw [trustAll, List.foldl_cons, ← trustAll, ih, trust]
    cases h : Host.normalize? site <;> simp [h]

theorem dataset_configured (d : Dataset) (list : SuffixList) (sites : List String) :
    (configured d list sites).dataset = d := by
  rw [configured, trustAll_eq]
  rfl

theorem trustedSites_configured (d : Dataset) (list : SuffixList) (sites : List String) :
    (configured d list sites).trustedSites = .ofList (sites.filterMap Host.normalize?) := by
  rw [configured, trustAll_eq]
  rfl

end Detector

namespace ContentRule

/-- The meaning of `.*`. -/
def anyExpr : Expr := .times (.set (.compl (.range 10 10))) 0 none

theorem compile_anyUrl : Filter.compile anyUrl = .ok ⟨anyExpr⟩ := by
  have hparse : parse? anyUrl.toList = some (.repetition .dot .zeroOrMore) := by decide +kernel
  rw [Filter.compile, Pattern.compile]
  exact Filter.compileChars_eq_ok_iff.mpr ⟨_, .filter, hparse, rfl, SizeLimit.fits_line⟩

theorem isMatch_anyUrl (url : String) : Filter.isMatch anyUrl url := by
  have hcounted : anyExpr.IsCounted := ⟨trivial, by simp⟩
  have hempty : Spells anyExpr [] :=
    spells_times_set_iff.mpr ⟨Nat.le_refl 0, fun c hc => absurd hc List.not_mem_nil⟩
  refine Filter.isMatch_iff.mpr ⟨_, compile_anyUrl, (occursIn_iff hcounted).mpr ?_⟩
  exact ⟨0, 0, Nat.zero_le _, matches_of_spells hempty [] url.toList⟩

theorem firstAction_trustedRules (sites : List String) (target : Target) :
    firstAction (trustedRules sites) target =
      if target.pageHost.any (isCovered (.ofList (sites.filterMap Host.normalize?)))
      then some .ignorePreviousRules else none := by
  have hrule := firstAction_forPages anyUrl (.ofList (sites.filterMap Host.normalize?)) target
  rwa [isMatch_anyUrl, Bool.and_true] at hrule

theorem firstAction_compile (d : Dataset) (options : CompileOptions) (target : Target) :
    firstAction (compile d options) target =
      (if target.pageHost.any (isCovered (.ofList (options.trustedSites.filterMap Host.normalize?)))
        then some .ignorePreviousRules else none).or
        (firstAction ((d.trackers.values.mergeSort comesFirst).flatMap (ofTracker d)) target) := by
  rw [compile, firstAction_append, firstAction_append, firstAction_trustedRules,
    firstAction_hidings, Option.or_none]

theorem firstAction_flatMap_eq_none_iff {f : Tracker → List ContentRule} {ts : List Tracker}
    {target : Target} :
    firstAction (ts.flatMap f) target = none ↔ ∀ t ∈ ts, firstAction (f t) target = none := by
  induction ts with
  | nil => simp [firstAction]
  | cons t ts ih =>
    rw [List.flatMap_cons, firstAction_append, Option.or_eq_none_iff, ih, List.forall_mem_cons]

end ContentRule

/-! ## Where the decisions depart -/

/-- A request for a resource, whose kind may be unknown. -/
structure Load where
  resource : Url.Resource
  pageHost : Option String
  kind : Option ResourceType

/-- A request as compiled rules match it. -/
def Load.target (x : Load) : Target :=
  ⟨x.resource.url, x.pageHost, x.kind.map ResourceType.hostName⟩

namespace Detector

open ContentRule

/-- What is done about a request, if it is one to a tracker. -/
def action? (det : Detector) (x : Load) : Option Action :=
  (det.tracker? x.resource.host).map fun t =>
    (det.verdict t x.resource.url x.pageHost (x.kind.map .single)).1

/-- A request that the filters of compiled rules and their guards for owners read as they are
meant. -/
structure IsOrdinary (det : Detector) (x : Load) : Prop where
  /-- The filter for the domain of the tracker matches, where no rule of the tracker takes the
  request or the page is one of the owner. -/
  scope : ∀ t, det.tracker? x.resource.host = some t →
    ((∀ r ∈ t.rules, ¬takes t.domain x.target r) ∨
      x.pageHost.any (det.isOwnPage (det.dataset.ownerOf? t))) →
    Filter.isMatch (Filter.scope t.domain) x.resource.url
  /-- No rule of a tracker in front takes a request to another host by letting the slash behind the
  host go. -/
  slash : ∀ u ∈ det.dataset.trackers.values, ¬Host.covers u.domain x.resource.host →
    (∀ t, det.tracker? x.resource.host = some t → comesFirst u t ∧ u ≠ t) →
    ∀ r ∈ u.rules, takes u.domain x.target r → Filter.keepsSlash (Filter.dropSlash r.pattern.toList)
  /-- What the guard for the owner lets through, the detector lets through. -/
  owner : ∀ t, det.tracker? x.resource.host = some t → guards det.dataset t x.target →
    det.action? x = some .ignore

/-- Whether the compiled rules decide otherwise about a request than the detector. They go by the
names of kinds and by covering domains, the detector by kinds and by the domains that it looks
up. -/
inductive Departs (det : Detector) (x : Load) : Prop where
  /-- A trusted site covers the page, but none is looked up for it. -/
  | trusted (hpage : x.pageHost.any (isCovered det.trustedSites))
      (hpassed : det.pageIsIn det.trustedSites x.pageHost = false)
      (hblock : det.action? x = some .block)
  /-- The domain of a tracker covers the host, but no tracker is found for it. -/
  | unfound {u : Tracker} (hpage : ¬x.pageHost.any (isCovered det.trustedSites))
      (hnone : det.tracker? x.resource.host = none) (hu : u ∈ det.dataset.trackers.values)
      (hcovers : Host.covers u.domain x.resource.host)
      (htakes : Filter.isMatch (Filter.scope u.domain) x.resource.url ∨
        ∃ r ∈ u.rules, takes u.domain x.target r)
  /-- The first rule that takes the request is one that the detector passes over. -/
  | rule {t : Tracker} {r : TrackerRule} (hpage : ¬x.pageHost.any (isCovered det.trustedSites))
      (ht : det.tracker? x.resource.host = some t) (hguard : ¬guards det.dataset t x.target)
      (hfirst : t.rules.find? (takes t.domain x.target) = some r)
      (hpassed : ¬det.isFor r.types r.domains x.pageHost (x.kind.map .single))
      (hdiffers : det.action? x ≠ some (actionOn t.domain x.target r))
  /-- The first rule that takes the request blocks it, and its exception takes it where the detector
  knows of no exception. -/
  | exception {t : Tracker} {r : TrackerRule}
      (hpage : ¬x.pageHost.any (isCovered det.trustedSites))
      (ht : det.tracker? x.resource.host = some t) (hguard : ¬guards det.dataset t x.target)
      (hfirst : t.rules.find? (takes t.domain x.target) = some r)
      (hfor : det.isFor r.types r.domains x.pageHost (x.kind.map .single))
      (hblock : r.action = .block) (hpassed : ¬det.isExcepted r x.pageHost (x.kind.map .single))
      (htakes : takesException t.domain x.target r)

section

variable {det : Detector} {ts : List Tracker} {es : List Entity}
  (hdata : det.dataset = Dataset.build ts es)

include hdata

theorem isNormal_of_dataset {k : String} {t : Tracker} (h : det.dataset.trackers.get? k = some t) :
    t.IsNormal ∧ t.domain = k := by
  rw [hdata] at h
  exact Dataset.isNormal_of_tracker?_build h

/-- The tracker of a request is the one whose domain is the longest among those of the host. -/
theorem covers_of_tracker? {host : String} {t : Tracker} (h : det.tracker? host = some t) :
    det.dataset.tracker? t.domain = some t ∧ Host.covers t.domain host ∧
      ∀ u ∈ det.dataset.trackers.values, Host.covers u.domain host →
        Host.covers u.domain t.domain := by
  obtain ⟨d, hd, ht, hlongest⟩ := SuffixList.exists_of_findSome?_walk h
  obtain rfl := (isNormal_of_dataset hdata ht).2
  refine ⟨ht, SuffixList.covers_of_mem_walk hd, fun u hu hcovers => hlongest _ hcovers ?_⟩
  obtain ⟨k, hk⟩ := TextMap.mem_values_iff.mp hu
  obtain rfl := (isNormal_of_dataset hdata hk).2
  exact Option.isSome_iff_exists.mpr ⟨u, hk⟩

end

/-! ## Decisions about a found tracker -/

variable {det : Detector} {x : Load} {t : Tracker}

section

variable (hpage : ¬x.pageHost.any (isCovered det.trustedSites))
  (ht : det.tracker? x.resource.host = some t)
  (hown : ¬x.pageHost.any (det.isOwnPage (det.dataset.ownerOf? t)))
  (hfilters : det.filtersOf t = ruleFilters t)

include hpage ht hown hfilters

theorem action?_of_find?_takes_eq_none
    (hfind : t.rules.find? (takes t.domain x.target) = none) : det.action? x = some t.action := by
  have hrules :=
    @firstRule?_eq_none_of_find?_takes _ det x.target x.kind t.domain t.rules rfl hfind 0
  rw [action?, ht, Option.map_some, verdict, if_neg fun h => hpage (any_isCovered_of_pageIsIn h),
    if_neg hown, hfilters]
  exact congrArg (fun found => some (found.getD (t.action, .default)).1) hrules

theorem action?_of_find?_takes {r : TrackerRule}
    (hfind : t.rules.find? (takes t.domain x.target) = some r)
    (hfor : det.isFor r.types r.domains x.pageHost (x.kind.map .single)) :
    det.action? x =
      some (if det.isExcepted r x.pageHost (x.kind.map .single) then .ignore else r.action) := by
  have hrules :=
    @firstRule?_of_find?_takes _ det x.target x.kind t.domain t.rules rfl r hfind hfor 0
  obtain ⟨found, hfound, haction⟩ := Option.map_eq_some_iff.mp hrules
  rw [action?, ht, Option.map_some, verdict, if_neg fun h => hpage (any_isCovered_of_pageIsIn h),
    if_neg hown, hfilters]
  exact (congrArg (fun found => some (found.getD (t.action, .default)).1) hfound).trans
    (congrArg some haction)

end

theorem departs_iff_of_tracker? (hpage : ¬x.pageHost.any (isCovered det.trustedSites))
    (ht : det.tracker? x.resource.host = some t) :
    det.Departs x ↔ ¬guards det.dataset t x.target ∧
      ∃ r, t.rules.find? (takes t.domain x.target) = some r ∧
        (¬det.isFor r.types r.domains x.pageHost (x.kind.map .single) ∧
            det.action? x ≠ some (actionOn t.domain x.target r) ∨
          det.isFor r.types r.domains x.pageHost (x.kind.map .single) ∧ r.action = .block ∧
            ¬det.isExcepted r x.pageHost (x.kind.map .single) ∧
            takesException t.domain x.target r) := by
  constructor
  · intro hdeparts
    cases hdeparts with
    | trusted hpage' => exact absurd hpage' hpage
    | unfound _ hnone =>
      rw [ht] at hnone
      cases hnone
    | rule _ ht' hguard hfirst hpassed hdiffers =>
      obtain rfl := Option.some.inj (ht.symm.trans ht')
      exact ⟨hguard, _, hfirst, .inl ⟨hpassed, hdiffers⟩⟩
    | exception _ ht' hguard hfirst hfor hblock hpassed htakes =>
      obtain rfl := Option.some.inj (ht.symm.trans ht')
      exact ⟨hguard, _, hfirst, .inr ⟨hfor, hblock, hpassed, htakes⟩⟩
  · rintro ⟨hguard, r, hfirst, ⟨hpassed, hdiffers⟩ | ⟨hfor, hblock, hpassed, htakes⟩⟩
    · exact .rule hpage ht hguard hfirst hpassed hdiffers
    · exact .exception hpage ht hguard hfirst hfor hblock hpassed htakes

/-- Whether the rules for the tracker of a request decide what the detector decides. -/
theorem firstAction_ofTracker_eq_iff (hdata : det.dataset = Dataset.build ts es)
    (hpage : ¬x.pageHost.any (isCovered det.trustedSites))
    (ht : det.tracker? x.resource.host = some t) (hordinary : det.IsOrdinary x) :
    firstAction (ofTracker det.dataset t) x.target = (det.action? x).map .ofAction ↔
      ¬det.Departs x := by
  rw [firstAction_ofTracker, departs_iff_of_tracker? hpage ht]
  by_cases hguard : guards det.dataset t x.target
  · rw [if_pos hguard, hordinary.owner t ht hguard]
    exact iff_of_true rfl fun h => h.1 hguard
  · have hnames : ByName det.dataset.entities := hdata ▸ Dataset.byName_build ts es
    have hfilters := filtersOf_eq (covers_of_tracker? hdata ht).1
    have hown : ¬x.pageHost.any (det.isOwnPage (det.dataset.ownerOf? t)) := by
      intro hown
      have hscope : Filter.isMatch (Filter.scope t.domain) x.target.url :=
        hordinary.scope t ht (.inr hown)
      refine hguard ?_
      rw [guards, hscope, Bool.and_true]
      exact any_isCovered_of_isOwnPage hnames hown
    rw [if_neg hguard, and_iff_right hguard]
    cases hfind : t.rules.find? (takes t.domain x.target) with
    | none =>
      have hscope : Filter.isMatch (Filter.scope t.domain) x.target.url :=
        hordinary.scope t ht (.inl (List.find?_eq_none.mp hfind))
      rw [action?_of_find?_takes_eq_none hpage ht hown hfilters hfind, if_pos hscope]
      simp
    | some r =>
      rw [Option.map_some, Option.some_or, some_ofAction_eq_map_iff]
      simp only [Option.some.injEq, exists_eq_left']
      by_cases hfor : det.isFor r.types r.domains x.pageHost (x.kind.map .single)
      · have hexception : det.isExcepted r x.pageHost (x.kind.map .single) →
            takesException t.domain x.target r :=
          @takesException_of_isExcepted _ det x.target x.kind t.domain r rfl hfor
        rw [action?_of_find?_takes hpage ht hown hfilters hfind hfor, actionOn]
        by_cases hexcepted : det.isExcepted r x.pageHost (x.kind.map .single)
        · simp [hexcepted, hexception hexcepted, hfor]
        · by_cases htakes : takesException t.domain x.target r
          · cases haction : r.action <;> simp [hexcepted, htakes, hfor]
          · simp [hexcepted, htakes]
      · simp [hfor]

/-! ## Decisions about all requests -/

section

variable (hdata : det.dataset = Dataset.build ts es) {text : String}
  (hresource : Url.normalize? text = some x.resource) (hordinary : det.IsOrdinary x)

include hdata hresource

theorem covers_of_firstAction_ne_none {u : Tracker} (hu : u ∈ det.dataset.trackers.values)
    (hslash : ¬Host.covers u.domain x.resource.host → ∀ r ∈ u.rules, takes u.domain x.target r →
      Filter.keepsSlash (Filter.dropSlash r.pattern.toList))
    (h : firstAction (ofTracker det.dataset u) x.target ≠ none) :
    Host.covers u.domain x.resource.host := by
  obtain ⟨k, hk⟩ := TextMap.mem_values_iff.mp hu
  have hnormal := (isNormal_of_dataset hdata hk).1
  rcases firstAction_ofTracker_ne_none_iff.mp h with hscope | ⟨r, hr, htakes⟩
  · exact covers_of_isMatch_scope hnormal hresource hscope
  · have hmatch : Filter.isMatch (Tracker.urlFilter u.domain r) x.resource.url :=
      (Bool.and_eq_true_iff.mp htakes).1
    by_contra hother
    exact hother (covers_of_isMatch_urlFilter hnormal hresource hr (hslash hother r hr htakes)
      hmatch)

include hordinary

/-- The rules in front of those for the tracker of a request are silent, and these decide. -/
theorem firstAction_trackers_of_tracker? (ht : det.tracker? x.resource.host = some t) :
    firstAction ((det.dataset.trackers.values.mergeSort comesFirst).flatMap (ofTracker det.dataset))
        x.target =
      firstAction (ofTracker det.dataset t) x.target := by
  obtain ⟨htracker, -, hlongest⟩ := covers_of_tracker? hdata ht
  have hkeys : ∀ k u, det.dataset.trackers.get? k = some u → u.domain = k := fun _ _ hk =>
    (isNormal_of_dataset hdata hk).2
  obtain ⟨before, after, heq, hbefore⟩ :=
    exists_mergeSort_eq_append hkeys (TextMap.mem_values_iff.mpr ⟨_, htracker⟩) hlongest
  have hsilent : firstAction (before.flatMap (ofTracker det.dataset)) x.target = none := by
    refine firstAction_flatMap_eq_none_iff.mpr fun u hu => ?_
    obtain ⟨hmem, hfirst, hne, hother⟩ := hbefore u hu
    by_contra hdecides
    refine hother (covers_of_firstAction_ne_none hdata hresource hmem (fun _ => ?_) hdecides)
    refine hordinary.slash u hmem hother fun t' ht' => ?_
    obtain rfl := Option.some.inj (ht.symm.trans ht')
    exact ⟨hfirst, hne⟩
  have hdecides : firstAction (ofTracker det.dataset t) x.target ≠ none := by
    refine firstAction_ofTracker_ne_none_iff.mpr ?_
    by_cases htakes : ∃ r ∈ t.rules, takes t.domain x.target r
    · exact .inr htakes
    · exact .inl (hordinary.scope t ht (.inl fun r hr h => htakes ⟨r, hr, h⟩))
  obtain ⟨a, ha⟩ := Option.ne_none_iff_exists'.mp hdecides
  rw [heq, List.flatMap_append, List.flatMap_cons, firstAction_append, firstAction_append, hsilent,
    ha]
  rfl

/-- Where no tracker is found, the rules decide about the requests that they take for one of a
tracker whose domain covers the host. -/
theorem firstAction_trackers_eq_none_iff (hpage : ¬x.pageHost.any (isCovered det.trustedSites))
    (hnone : det.tracker? x.resource.host = none) :
    firstAction ((det.dataset.trackers.values.mergeSort comesFirst).flatMap (ofTracker det.dataset))
        x.target = none ↔
      ¬det.Departs x := by
  rw [firstAction_flatMap_eq_none_iff]
  simp only [List.mem_mergeSort]
  constructor
  · intro hsilent hdeparts
    cases hdeparts with
    | trusted hpage' => exact hpage hpage'
    | unfound _ _ hu _ htakes =>
      refine firstAction_ofTracker_ne_none_iff.mpr ?_ (hsilent _ hu)
      exact htakes
    | rule _ ht | exception _ ht =>
      rw [hnone] at ht
      cases ht
  · intro hdeparts u hu
    have hfront : ∀ t, det.tracker? x.resource.host = some t → comesFirst u t ∧ u ≠ t :=
      fun t ht => nomatch hnone.symm.trans ht
    by_contra hdecides
    have hcovers := covers_of_firstAction_ne_none hdata hresource hu
      (fun hother => hordinary.slash u hu hother hfront) hdecides
    have htakes := firstAction_ofTracker_ne_none_iff.mp hdecides
    refine hdeparts (.unfound hpage hnone hu hcovers ?_)
    exact htakes

theorem firstAction_trackers_eq_iff (hpage : ¬x.pageHost.any (isCovered det.trustedSites)) :
    firstAction ((det.dataset.trackers.values.mergeSort comesFirst).flatMap (ofTracker det.dataset))
        x.target = (det.action? x).map .ofAction ↔
      ¬det.Departs x := by
  cases ht : det.tracker? x.resource.host with
  | none =>
    have haction : det.action? x = none := by rw [action?, ht, Option.map_none]
    rw [haction]
    exact firstAction_trackers_eq_none_iff hdata hresource hordinary hpage ht
  | some t =>
    rw [firstAction_trackers_of_tracker? hdata hresource hordinary ht]
    exact firstAction_ofTracker_eq_iff hdata hpage ht hordinary

end

/-- What comes from trusted sites is let through, so the detector departs by blocking it. -/
theorem departs_iff_of_trusted (hpage : x.pageHost.any (isCovered det.trustedSites)) :
    det.Departs x ↔ det.action? x = some .block := by
  constructor
  · intro hdeparts
    cases hdeparts with
    | trusted _ _ hblock => exact hblock
    | unfound hpage' | rule hpage' | exception hpage' => exact absurd hpage hpage'
  · intro hblock
    refine .trusted hpage ?_ hblock
    by_contra htrusted
    rw [Bool.not_eq_false] at htrusted
    obtain ⟨t, -, hverdict⟩ := Option.map_eq_some_iff.mp hblock
    rw [verdict, if_pos htrusted] at hverdict
    cases hverdict

end Detector

/-! ## Agreement -/

namespace ContentRule

open Detector

/-- What the detector decides about a request, as the action of a rule. -/
def engineAction (d : Dataset) (list : SuffixList) (sites : List String) (r : Request) :
    Option ContentAction :=
  ((configured d list sites).classify r).map fun c => .ofAction c.action

/-- What the compiled rules decide about a request. -/
def compiledAction (d : Dataset) (options : CompileOptions) (r : Request) : Option ContentAction :=
  Matcher.decide (Matcher.ofRules (compile d options)) r

/-- Whether the detector and the compiled rules decide the same about a request. On trusted pages
the rules may also let through what goes to no tracker. -/
def Agrees (d : Dataset) (list : SuffixList) (options : CompileOptions) (r : Request) : Prop :=
  compiledAction d options r = engineAction d list options.trustedSites r ∨
    engineAction d list options.trustedSites r = none ∧
      (Url.host? r.page).any
        (isCovered (.ofList (options.trustedSites.filterMap Host.normalize?))) ∧
      compiledAction d options r = some .ignorePreviousRules

instance (d : Dataset) (list : SuffixList) (options : CompileOptions) (r : Request) :
    Decidable (Agrees d list options r) :=
  inferInstanceAs (Decidable (_ ∨ _))

theorem engineAction_eq (d : Dataset) (list : SuffixList) (sites : List String) {resource : String}
    {r : Url.Resource} (hresource : Url.normalize? resource = some r) (page : String)
    (kind : Option ResourceType) :
    engineAction d list sites ⟨resource, page, kind.map .single⟩ =
      ((configured d list sites).action? ⟨r, Url.host? page, kind⟩).map .ofAction := by
  simp only [engineAction, classify, action?, hresource, Option.bind_some, Option.map_map]
  rfl

end ContentRule

end

/-! A tracker with an owner, a rule and an exception, and a page that the rule is for. -/

namespace ContentRule

open Detector
open scoped Pattern.Estimate

private def pixelRule : TrackerRule where
  pattern := "pixel"
  action := .ignore
  types := .single .image
  domains := .ofList ["blog.example"]
  options := ⟨true⟩
  exceptions := ⟨.ofList ["shop.blog.example"], .empty⟩

private def pixelTracker : Tracker :=
  { Tracker.forDomain "t.example" .block with owner := some "T Co", rules := [pixelRule] }

private def pixelDetector : Detector :=
  configured (.build [pixelTracker] [.named "T Co" ["t-site.example"]]) .heuristic
    ["trusted.example"]

private theorem isOrdinary_pixel :
    pixelDetector.IsOrdinary
      ⟨⟨"https://cdn.t.example:8443/pixel.gif", "cdn.t.example"⟩, some "www.blog.example",
        some .image⟩ := by
  have htracker : pixelDetector.tracker? "cdn.t.example" = some pixelTracker := by decide +kernel
  have htrackers : pixelDetector.dataset.trackers.values = [pixelTracker] := by decide +kernel
  constructor
  case scope =>
    intro t ht _
    obtain rfl := Option.some.inj (htracker.symm.trans ht)
    decide +kernel
  case slash =>
    intro u hu _ hfront
    rw [htrackers] at hu
    exact absurd (List.mem_singleton.mp hu) (hfront _ htracker).2
  case owner =>
    intro t ht hguard
    obtain rfl := Option.some.inj (htracker.symm.trans ht)
    exact absurd hguard (by decide +kernel)

private theorem not_departs_pixel :
    ¬pixelDetector.Departs
      ⟨⟨"https://cdn.t.example:8443/pixel.gif", "cdn.t.example"⟩, some "www.blog.example",
        some .image⟩ := by
  have htracker : pixelDetector.tracker? "cdn.t.example" = some pixelTracker := by decide +kernel
  rw [departs_iff_of_tracker? (by decide +kernel) htracker]
  rintro ⟨-, r, hfirst, ⟨hpassed, -⟩ | ⟨-, hblock, -⟩⟩
  · have hpixel : pixelTracker.rules.find? (takes "t.example"
        (Load.target ⟨⟨"https://cdn.t.example:8443/pixel.gif", "cdn.t.example"⟩,
          some "www.blog.example", some .image⟩)) = some pixelRule := by decide +kernel
    obtain rfl := Option.some.inj (hpixel.symm.trans hfirst)
    exact hpassed (by decide +kernel)
  · obtain rfl : r = pixelRule := List.mem_singleton.mp (List.mem_of_find?_eq_some hfirst)
    cases hblock

end ContentRule

end Blocklist
