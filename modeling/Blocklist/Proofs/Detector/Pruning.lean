import Blocklist.Pattern.Estimate
import Blocklist.Proofs.Detector.Decisions

/-! # Entities without trackers

A dataset leaves out the entities that own no tracker. Where such an entity would own the page of a
request, the page belongs to no entity without it, or to one that lists a shorter domain or has an
earlier name. Only if that one owns the tracker is the request decided in another way. Main
statement: `classify_build_eq_classify_buildAll_iff`. -/

namespace Blocklist

/-! ## Datasets -/

namespace Dataset

variable [Pattern.SizeLimit]

/-- Builds a dataset that keeps the entities that own no tracker. -/
def buildAll (ts : List Tracker) (es : List Entity) : Dataset :=
  .ofMaps (trackersByDomain ts) (entitiesByName es)

theorem byName_buildAll (ts : List Tracker) (es : List Entity) :
    ByName (buildAll ts es).entities :=
  byName_entitiesByName es

section

variable {ts : List Tracker} {es : List Entity}

theorem entity?_build_iff {n : String} {e : Entity} :
    (build ts es).entity? n = some e ↔
      (buildAll ts es).entity? n = some e ∧ isOwner (trackersByDomain ts) n := by
  have hget : (build ts es).entity? n =
      ((buildAll ts es).entity? n).filter fun _ => isOwner (trackersByDomain ts) n :=
    get?_entities_build ts es n
  rw [hget, Option.filter_eq_some_iff]

theorem entity?_buildAll {n : String} {e : Entity} (h : (build ts es).entity? n = some e) :
    (buildAll ts es).entity? n = some e :=
  (entity?_build_iff.mp h).1

/-- The owner of a tracker is kept. -/
theorem ownerOf?_build {k : String} {t : Tracker} (h : (build ts es).tracker? k = some t) :
    (build ts es).ownerOf? t = (buildAll ts es).ownerOf? t := by
  unfold ownerOf?
  cases howner : t.owner with
  | none => rfl
  | some n =>
    have hlive : isOwner (trackersByDomain ts) n := isOwner_iff.mpr ⟨k, t, h, howner⟩
    exact Option.ext fun e => by simp [entity?_build_iff, hlive]

end

end Dataset

/-! ## Detectors -/

namespace Detector

section

variable [Pattern.SizeLimit]

/-- A detector with another dataset. -/
def withDataset (d : Detector) (dataset : Dataset) : Detector :=
  { ofDataset dataset with suffixes := d.suffixes, trustedSites := d.trustedSites }

theorem verdict_withDataset (d : Detector) (dataset : Dataset) (t : Tracker) (url : String)
    (pageHost : Option String) (type : Option TypeMask) :
    (d.withDataset dataset).verdict t url pageHost type =
      if d.pageIsIn d.trustedSites pageHost then (.ignore, .trustedSite)
      else if pageHost.any ((d.withDataset dataset).isOwnPage (dataset.ownerOf? t)) then
        (.ignore, .sameEntity)
      else
        (d.firstRule? url pageHost type 0 (t.rules.zip ((d.withDataset dataset).filtersOf t))).getD
          (t.action, .default) := by
  rw [verdict, firstRule?_congr (show (d.withDataset dataset).suffixes = d.suffixes from rfl)]
  rfl

theorem reason_of_firstRule? {d : Detector} {url : String} {pageHost : Option String}
    {type : Option TypeMask} {index : Nat} {rules : List (TrackerRule × Option Pattern)}
    {action : Action} {reason : Reason}
    (h : d.firstRule? url pageHost type index rules = some (action, reason)) :
    reason ≠ .sameEntity := by
  induction rules generalizing index with
  | nil => cases h
  | cons rule rules ih =>
    unfold firstRule? at h
    split at h
    · split at h
      · cases h
        exact Reason.noConfusion
      · cases h
        exact Reason.noConfusion
    · exact ih h

variable {d : Detector} {ts : List Tracker} {es : List Entity}

/-- A page keeps its entity if that is kept. -/
theorem entity?_withDataset_build {page : String} {e : Entity}
    (h : (d.withDataset (.buildAll ts es)).entity? page = some e)
    (hkept : (Dataset.build ts es).entity? e.name = some e) :
    (d.withDataset (.build ts es)).entity? page = some e := by
  obtain ⟨-, k, hk, hwalk, hothers⟩ := (entity?_eq_some_iff (Dataset.byName_buildAll ts es)).mp h
  exact (entity?_eq_some_iff (Dataset.byName_build ts es)).mpr
    ⟨hkept, k, hk, hwalk, fun f hf => hothers f (Dataset.entity?_buildAll hf)⟩

theorem entity?_withDataset_build_eq_none {page : String}
    (h : (d.withDataset (.buildAll ts es)).entity? page = none) :
    (d.withDataset (.build ts es)).entity? page = none := by
  rw [entity?_eq_none_iff (Dataset.byName_buildAll ts es)] at h
  exact (entity?_eq_none_iff (Dataset.byName_build ts es)).mpr
    fun n e he => h n e (Dataset.entity?_buildAll he)

/-- Whether a page belongs to an entity that is left out, and without it to the owner of a
tracker. -/
def PassesToOwner (d : Detector) (ts : List Tracker) (es : List Entity) (t : Tracker)
    (page : String) : Prop :=
  ∃ owner e, (Dataset.build ts es).ownerOf? t = some owner ∧
    (d.withDataset (.build ts es)).entity? page = some owner ∧
    (d.withDataset (.buildAll ts es)).entity? page = some e ∧
    (Dataset.build ts es).entity? e.name = none

/-- Whether a request is for a tracker, and from a page that is not trusted and passes to the owner
of the tracker. -/
def IsFromPassedPage (d : Detector) (ts : List Tracker) (es : List Entity) (r : Request) : Prop :=
  ∃ resource t page, Url.normalize? r.resource = some resource ∧
    (d.withDataset (.build ts es)).tracker? resource.host = some t ∧
    Url.host? r.page = some page ∧ ¬d.pageIsIn d.trustedSites (some page) ∧
    d.PassesToOwner ts es t page

theorem tracker?_withDataset_build (host : String) :
    (d.withDataset (.build ts es)).tracker? host =
      (d.withDataset (.buildAll ts es)).tracker? host :=
  rfl

theorem filtersOf_withDataset_build (t : Tracker) :
    (d.withDataset (.build ts es)).filtersOf t = (d.withDataset (.buildAll ts es)).filtersOf t :=
  rfl

section

variable {t : Tracker} {k page : String} (ht : (Dataset.build ts es).tracker? k = some t)

include ht

theorem isOwnPage_buildAll_iff :
    (d.withDataset (.buildAll ts es)).isOwnPage ((Dataset.buildAll ts es).ownerOf? t) page ↔
      ∃ owner, (Dataset.build ts es).ownerOf? t = some owner ∧
        (d.withDataset (.buildAll ts es)).entity? page = some owner := by
  rw [Dataset.ownerOf?_build ht]
  exact isOwnPage_iff (Dataset.byName_buildAll ts es)

theorem not_passesToOwner_of_isOwnPage
    (h : (d.withDataset (.buildAll ts es)).isOwnPage ((Dataset.buildAll ts es).ownerOf? t) page) :
    ¬d.PassesToOwner ts es t page := by
  obtain ⟨owner, howner, hpage⟩ := (isOwnPage_buildAll_iff ht).mp h
  have hkept := Dataset.entity?_name_of_ownerOf? (Dataset.byName_build ts es) howner
  rintro ⟨-, e, -, -, hpage', hdropped⟩
  obtain rfl : owner = e := Option.some.inj (hpage.symm.trans hpage')
  rw [hkept] at hdropped
  cases hdropped

/-- The owner of a tracker keeps its pages, and gets those that pass to it. -/
theorem isOwnPage_build_iff :
    (d.withDataset (.build ts es)).isOwnPage ((Dataset.build ts es).ownerOf? t) page ↔
      (d.withDataset (.buildAll ts es)).isOwnPage ((Dataset.buildAll ts es).ownerOf? t) page ∨
        d.PassesToOwner ts es t page := by
  rw [isOwnPage_buildAll_iff ht]
  refine (isOwnPage_iff (Dataset.byName_build ts es)).trans ?_
  constructor
  · rintro ⟨owner, howner, hpage⟩
    cases hall : (d.withDataset (.buildAll ts es)).entity? page with
    | none =>
      rw [entity?_withDataset_build_eq_none hall] at hpage
      cases hpage
    | some e =>
      cases hkept : (Dataset.build ts es).entity? e.name with
      | none => exact .inr ⟨owner, e, howner, hpage, hall, hkept⟩
      | some e' =>
        obtain ⟨hlisted, -⟩ := (entity?_eq_some_iff (Dataset.byName_buildAll ts es)).mp hall
        obtain rfl : e' = e :=
          Option.some.inj ((Dataset.entity?_buildAll hkept).symm.trans hlisted)
        rw [entity?_withDataset_build hall hkept] at hpage
        exact .inl ⟨owner, howner, hpage⟩
  · rintro (⟨owner, howner, hpage⟩ | ⟨owner, -, howner, hpage, -⟩)
    · have hkept := Dataset.entity?_name_of_ownerOf? (Dataset.byName_build ts es) howner
      exact ⟨owner, howner, entity?_withDataset_build hpage hkept⟩
    · exact ⟨owner, howner, hpage⟩

theorem verdict_build_eq (url : String) {pageHost : Option String} (type : Option TypeMask)
    (h : ∀ page, pageHost = some page → ¬d.pageIsIn d.trustedSites (some page) →
      ¬d.PassesToOwner ts es t page) :
    (d.withDataset (.build ts es)).verdict t url pageHost type =
      (d.withDataset (.buildAll ts es)).verdict t url pageHost type := by
  rw [verdict_withDataset, verdict_withDataset]
  split
  · rfl
  · rename_i htrusted
    have hown : pageHost.any
          ((d.withDataset (.build ts es)).isOwnPage ((Dataset.build ts es).ownerOf? t)) =
        pageHost.any
          ((d.withDataset (.buildAll ts es)).isOwnPage ((Dataset.buildAll ts es).ownerOf? t)) := by
      cases pageHost with
      | none => rfl
      | some page =>
        rw [Option.any_some, Option.any_some, Bool.eq_iff_iff, isOwnPage_build_iff ht]
        exact or_iff_left (h page rfl htrusted)
    rw [hown, filtersOf_withDataset_build]

/-- From a page that passes to the owner a request is let through. -/
theorem verdict_of_passesToOwner (url : String) (type : Option TypeMask)
    (htrusted : ¬d.pageIsIn d.trustedSites (some page)) (h : d.PassesToOwner ts es t page) :
    (d.withDataset (.build ts es)).verdict t url (some page) type = (.ignore, .sameEntity) ∧
      ((d.withDataset (.buildAll ts es)).verdict t url (some page) type).2 ≠ .sameEntity := by
  have hown := (isOwnPage_build_iff ht).mpr (.inr h)
  have hown' := fun hown' => not_passesToOwner_of_isOwnPage ht hown' h
  rw [verdict_withDataset, verdict_withDataset, if_neg htrusted, if_neg htrusted,
    Option.any_some, Option.any_some, if_pos hown, if_neg hown']
  refine ⟨rfl, ?_⟩
  cases hrule : d.firstRule? url (some page) type 0 _ with
  | none => nofun
  | some result => exact reason_of_firstRule? hrule

end

theorem classify_build_eq {r : Request} (h : ¬d.IsFromPassedPage ts es r) :
    (d.withDataset (.build ts es)).classify r = (d.withDataset (.buildAll ts es)).classify r := by
  unfold classify
  cases hresource : Url.normalize? r.resource with
  | none => rw [Option.bind_none, Option.bind_none]
  | some resource =>
    rw [Option.bind_some, Option.bind_some, ← tracker?_withDataset_build]
    cases htracker : (d.withDataset (.build ts es)).tracker? resource.host with
    | none => rw [Option.map_none, Option.map_none]
    | some t =>
      obtain ⟨k, -, ht⟩ := List.exists_of_findSome?_eq_some htracker
      have howner : (d.withDataset (.build ts es)).dataset.ownerOf? t =
          (d.withDataset (.buildAll ts es)).dataset.ownerOf? t := Dataset.ownerOf?_build ht
      have hverdict := verdict_build_eq ht resource.url r.type fun page hpage htrusted hpasses =>
        h ⟨resource, t, page, hresource, htracker, hpage, htrusted, hpasses⟩
      rw [Option.map_some, Option.map_some, howner, hverdict]

/-- A request from a page that passes to the owner of the tracker is let through as one from the
owner's pages, which it is not. -/
theorem exists_classify_of_isFromPassedPage {r : Request} (h : d.IsFromPassedPage ts es r) :
    ∃ c c', (d.withDataset (.build ts es)).classify r = some c ∧
      (d.withDataset (.buildAll ts es)).classify r = some c' ∧
      c.action = .ignore ∧ c.reason = .sameEntity ∧ c'.reason ≠ .sameEntity := by
  obtain ⟨resource, t, page, hresource, htracker, hpage, htrusted, hpasses⟩ := h
  obtain ⟨k, -, ht⟩ := List.exists_of_findSome?_eq_some htracker
  obtain ⟨hbuild, hall⟩ :=
    verdict_of_passesToOwner ht resource.url r.type htrusted hpasses
  unfold classify
  rw [hresource, Option.bind_some, Option.bind_some, ← tracker?_withDataset_build, htracker,
    hpage]
  refine ⟨_, _, rfl, rfl, ?_, ?_, hall⟩
  · exact congrArg Prod.fst hbuild
  · exact congrArg Prod.snd hbuild

/-- With and without the entities that own no tracker requests are classified alike, but for those
from a page that passes to the owner of the tracker: without these entities, and only then, such a
request is let through as one from the owner's pages. -/
theorem classify_build_eq_classify_buildAll_iff (d : Detector) (ts : List Tracker)
    (es : List Entity) (r : Request) :
    ((d.withDataset (.build ts es)).classify r = (d.withDataset (.buildAll ts es)).classify r ↔
        ¬d.IsFromPassedPage ts es r) ∧
      (d.IsFromPassedPage ts es r ↔
        ∃ c c', (d.withDataset (.build ts es)).classify r = some c ∧
          (d.withDataset (.buildAll ts es)).classify r = some c' ∧
          c.action = .ignore ∧ c.reason = .sameEntity ∧ c'.reason ≠ .sameEntity) := by
  have hdiffer : ∀ {c c' : Classification}, c.reason = .sameEntity → c'.reason ≠ .sameEntity →
      some c ≠ some c' := by
    intro c c' hreason hreason' heq
    obtain rfl := Option.some.inj heq
    exact hreason' hreason
  refine ⟨⟨fun heq hpassed => ?_, classify_build_eq⟩,
    exists_classify_of_isFromPassedPage, ?_⟩
  · obtain ⟨c, c', hc, hc', -, hreason, hreason'⟩ := exists_classify_of_isFromPassedPage hpassed
    exact hdiffer hreason hreason' (by rw [← hc, ← hc', heq])
  · rintro ⟨c, c', hc, hc', -, hreason, hreason'⟩
    by_contra hnot
    exact hdiffer hreason hreason' (by rw [← hc, ← hc', classify_build_eq hnot])

end

open scoped Pattern.Estimate

/-- Two entities list the page, and only the one with the earlier name owns the tracker. -/
theorem classify_build_ne_of_sharedSite :
    ((ofDataset (.build
          [{ Tracker.forDomain "t.example" .block with owner := some "A" }]
          [.named "A" ["site.example"], .named "B" ["site.example"]])).classify
        ⟨"https://t.example/x.js", "https://site.example/", none⟩).map
          (fun c => (c.action, c.reason)) = some (.ignore, .sameEntity) ∧
      ((ofDataset (.buildAll
          [{ Tracker.forDomain "t.example" .block with owner := some "A" }]
          [.named "A" ["site.example"], .named "B" ["site.example"]])).classify
        ⟨"https://t.example/x.js", "https://site.example/", none⟩).map
          (fun c => (c.action, c.reason)) = some (.block, .default) := by
  decide +kernel

end Detector

end Blocklist
