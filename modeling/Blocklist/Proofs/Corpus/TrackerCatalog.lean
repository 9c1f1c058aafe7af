import Blocklist.Corpus.TrackerCatalog
import Blocklist.Pattern.Estimate
import Blocklist.Proofs.Corpus.EntityRegistry
import Blocklist.Proofs.Dataset.Rebuilding
import Blocklist.Proofs.Dataset.Statistics
import Blocklist.Proofs.Tracker.Renormalizing

/-! # The catalog of trackers and its dataset

A catalog looks an owner up in a registry, by name and else by key, and its dataset by name alone.
As the catalog gives trackers the names that the registry has for their owners, both find the same
entities. Main statement:
`agreesWithDataset_of_isMadeOf`. -/

namespace Blocklist

open Text

/-- The name of the owner that a record gives. A name of blanks alone counts as none. -/
def Tracker.ownerName? (t : Tracker) : Option String :=
  t.owner.filter fun name => !(trim name).isEmpty

/-- Whether a record is a valid tracker for a domain. -/
def Tracker.isFor [Pattern.SizeLimit] (k : String) (t : Tracker) : Bool :=
  t.normalize.toOption.any (·.domain = k)

namespace TrackerCatalog

open EntityRegistry (IsSound)

variable {registry : EntityRegistry} {ts : List Tracker} {c : TrackerCatalog}

/-! ## Owners -/

theorem domain_resolveOwner (registry : EntityRegistry) (t : Tracker) :
    (resolveOwner registry t).domain = t.domain := by
  unfold resolveOwner
  split <;> rfl

/-- An owner that the registry has is known by the name of the entity. -/
theorem owner_resolveOwner (hr : registry.IsSound) (t : Tracker) :
    (∃ e, t.owner.bind registry.find? = some e ∧ (resolveOwner registry t).owner = some e.name ∧
        registry.entities.get? e.name = some e) ∨
      t.owner.bind registry.find? = none ∧ (resolveOwner registry t).owner = t.owner := by
  unfold resolveOwner
  cases hfind : t.owner.bind registry.find? with
  | some e =>
    obtain ⟨owner, -, hfind⟩ := Option.bind_eq_some_iff.mp hfind
    exact .inl ⟨e, rfl, rfl, hr.get?_name hfind⟩
  | none => exact .inr ⟨rfl, rfl⟩

/-- The registry finds for an owner in the catalog what stands under just that name. -/
theorem find?_owner_resolveOwner (hr : registry.IsSound) {t : Tracker} {owner : String}
    (h : (resolveOwner registry t).owner = some owner) :
    registry.find? owner = registry.entities.get? owner := by
  obtain ⟨e, -, howner, hget⟩ | ⟨hnone, howner⟩ := owner_resolveOwner hr t
  · obtain rfl : e.name = owner := Option.some.inj (howner.symm.trans h)
    rw [hget, hr.find?_of_get? hget]
  · rw [howner] at h
    rw [h, Option.bind_some] at hnone
    cases hget : registry.entities.get? owner with
    | none => exact hnone
    | some e => rw [hr.find?_of_get? hget] at hnone; cases hnone

theorem normalOwner_bind_find? (registry : EntityRegistry) (t : Tracker) :
    (Tracker.normalOwner t.owner).bind registry.find? = t.ownerName?.bind registry.find? := by
  unfold Tracker.normalOwner Tracker.ownerName?
  cases t.owner with
  | none => simp only [Option.map_none, Option.filter_none, Option.bind_none]
  | some name =>
    by_cases hname : (trim name).isEmpty <;>
      simp [Option.filter_some, hname, EntityRegistry.find?_trim]

/-- Catalogs of the same trackers over registries with the same look-ups differ in their reports
alone. -/
theorem ofValid_congr {registry' : EntityRegistry} (hfind : registry.find? = registry'.find?)
    (us : List Tracker) (report : LoadReport) :
    ofValid registry us report = ofValid registry' us report := by
  have hresolve : resolveOwner registry = resolveOwner registry' := by
    funext t
    rw [resolveOwner, resolveOwner, hfind]
  simp only [ofValid, hresolve, hfind]

/-! ## Trackers -/

section

variable [Pattern.SizeLimit]

theorem isNormal_resolveOwner (hr : registry.IsSound) {t : Tracker} (ht : t.IsNormal) :
    (resolveOwner registry t).IsNormal := by
  unfold resolveOwner
  split
  · rename_i e he
    obtain ⟨owner, -, hfind⟩ := Option.bind_eq_some_iff.mp he
    have hname := (hr.normal e.name e (hr.get?_name hfind)).name
    refine ⟨ht.domain, fun name hn => ?_, ht.rules⟩
    rwa [← Option.some.inj hn]
  · exact ht

/-- The valid trackers among some records. -/
def validTrackers (ts : List Tracker) : List Tracker :=
  ts.filterMap fun t => t.normalize.toOption

/-- A catalog of some records, with their owners looked up in a sound registry. -/
structure IsCatalogOf (registry : EntityRegistry) (ts : List Tracker) (c : TrackerCatalog) :
    Prop where
  sound : registry.IsSound
  eq : c = ofValid registry (validTrackers ts) c.report

theorem get?_trackers (registry : EntityRegistry) (ts : List Tracker) (report : LoadReport)
    (k : String) :
    (ofValid registry (validTrackers ts) report).trackers.get? k =
      (ts.findRev? (·.isFor k)).bind fun t =>
        t.normalize.toOption.map (resolveOwner registry) := by
  have hlist : (validTrackers ts).map (fun t => (t.domain, resolveOwner registry t)) =
      (ts.filterMap fun t => t.normalize.toOption.map (resolveOwner registry)).map fun t =>
        (t.domain, t) := by
    rw [validTrackers, List.map_filterMap, List.map_filterMap]
    refine List.filterMap_congr fun t _ => ?_
    cases t.normalize.toOption <;> simp [domain_resolveOwner]
  have hsome : ∀ t : Tracker, t.isFor k →
      (t.normalize.toOption.map (resolveOwner registry)).isSome := by
    intro t ht
    cases hn : t.normalize.toOption with
    | none => simp [Tracker.isFor, hn] at ht
    | some u => rfl
  rw [ofValid, hlist, get?_ofList_filterMap _ Tracker.domain, ← findSomeRev?_ite ts hsome]
  refine congrArg (List.findSomeRev? · ts) (funext fun t => ?_)
  unfold Tracker.isFor
  cases t.normalize.toOption with
  | none => rfl
  | some u => by_cases hu : u.domain = k <;> simp [Option.filter_some, domain_resolveOwner, hu]

/-- A tracker in the catalog is the last valid record for its domain, in normal form and with its
owner resolved. -/
theorem IsCatalogOf.get?_trackers_eq_some_iff (h : IsCatalogOf registry ts c) {k : String}
    {u : Tracker} :
    c.trackers.get? k = some u ↔
      ∃ r t, (ts.findRev? (·.isFor k)) = some r ∧ r.normalize = .ok t ∧
        u = resolveOwner registry t := by
  rw [h.eq, get?_trackers, Option.bind_eq_some_iff]
  refine exists_congr fun r => ?_
  cases r.normalize with
  | error e => simp [Except.toOption]
  | ok t => simp [Except.toOption, eq_comm]

theorem IsCatalogOf.isNormal_of_get?_trackers (h : IsCatalogOf registry ts c) {k : String}
    {u : Tracker} (hu : c.trackers.get? k = some u) : u.IsNormal ∧ u.domain = k := by
  obtain ⟨r, t, hfind, ht, rfl⟩ := h.get?_trackers_eq_some_iff.mp hu
  rw [List.findRev?_eq_find?_reverse] at hfind
  have hdomain := List.find?_some hfind
  rw [Tracker.isFor, ht] at hdomain
  exact ⟨isNormal_resolveOwner h.sound (Tracker.isNormal_of_normalize ht),
    (domain_resolveOwner registry t).trans (by simpa [Except.toOption] using hdomain)⟩

theorem IsCatalogOf.tracker?_dataset_eq (h : IsCatalogOf registry ts c) (k : String) :
    c.dataset.tracker? k = (c.trackers.get? k).bind fun u => u.normalize.toOption :=
  Dataset.get?_trackersByDomain_values (fun _ _ => h.isNormal_of_get?_trackers) k

/-- No tracker of the catalog is refused when its dataset is built. -/
theorem IsCatalogOf.tracker?_dataset (h : IsCatalogOf registry ts c) (k : String) :
    (c.trackers.get? k = none ∧ c.dataset.tracker? k = none) ∨
      ∃ u v, c.trackers.get? k = some u ∧ c.dataset.tracker? k = some v ∧ v.owner = u.owner := by
  rw [h.tracker?_dataset_eq]
  cases hu : c.trackers.get? k with
  | none => exact .inl ⟨rfl, rfl⟩
  | some u =>
    obtain ⟨v, hv, -, howner⟩ := (h.isNormal_of_get?_trackers hu).1.exists_normalize
    exact .inr ⟨u, v, rfl, by rw [Option.bind_some, hv]; rfl, howner⟩

/-- The dataset has the owners of the catalog, domain by domain. -/
theorem IsCatalogOf.map_owner_dataset (h : IsCatalogOf registry ts c) :
    (c.dataset.trackers.map fun _ t => t.owner) = c.trackers.map fun _ t => t.owner := by
  refine TextMap.ext_get? fun k => ?_
  rw [TextMap.get?_map, TextMap.get?_map]
  obtain ⟨hu, hv⟩ | ⟨u, v, hu, hv, howner⟩ := h.tracker?_dataset k
  · rw [hu, show c.dataset.trackers.get? k = none from hv]
  · rw [hu, show c.dataset.trackers.get? k = some v from hv]
    simp [howner]

theorem IsCatalogOf.owners_dataset (h : IsCatalogOf registry ts c) :
    c.dataset.trackers.values.map Tracker.owner = c.trackers.values.map Tracker.owner := by
  have hmap : ∀ m : TextMap Tracker,
      (m.map fun _ t => t.owner).values = m.values.map Tracker.owner := fun m => by
    simp [TextMap.values, TextMap.map]
  rw [← hmap, ← hmap, h.map_owner_dataset]

/-- The dataset has exactly the tracker domains of the catalog. -/
theorem IsCatalogOf.keys_dataset (h : IsCatalogOf registry ts c) :
    c.dataset.trackers.keys = c.trackers.keys := by
  have hmap : ∀ m : TextMap Tracker, (m.map fun _ t => t.owner).keys = m.keys := fun m => by
    simp [TextMap.keys, TextMap.map]
  rw [← hmap, h.map_owner_dataset, hmap]

/-! ## Entities -/

/-- The entities of a catalog are those that a tracker of it has the name of. -/
theorem IsCatalogOf.get?_entities_eq_some_iff (h : IsCatalogOf registry ts c) {n : String}
    {e : Entity} :
    c.entities.get? n = some e ↔
      registry.entities.get? n = some e ∧ Dataset.isOwner c.trackers n := by
  let found := (c.trackers.values.filterMap Tracker.owner).filterMap registry.find?
  have hget : c.entities.get? n = (found.filter fun e => e.name = n).getLast? := by
    have hentities : c.entities = .ofList (found.map fun e => (e.name, e)) := by
      simp only [found]
      rw [h.eq]
      rfl
    rw [hentities, TextMap.get?_ofList_map]
  have hmem : ∀ f, f ∈ found ∧ f.name = n ↔
      registry.entities.get? n = some f ∧ Dataset.isOwner c.trackers n := by
    intro f
    simp only [found, List.mem_filterMap, isOwner_iff, TextMap.mem_values_iff]
    constructor
    · rintro ⟨⟨owner, ⟨u, ⟨k, hu⟩, howner⟩, hf⟩, rfl⟩
      obtain ⟨r, t, -, -, rfl⟩ := h.get?_trackers_eq_some_iff.mp hu
      rw [find?_owner_resolveOwner h.sound howner] at hf
      obtain rfl := h.sound.name owner f hf
      exact ⟨hf, k, _, hu, howner⟩
    · rintro ⟨hf, k, u, hu, howner⟩
      exact ⟨⟨n, ⟨u, ⟨k, hu⟩, howner⟩, h.sound.find?_of_get? hf⟩, h.sound.name n f hf⟩
  rw [hget]
  constructor
  · intro h
    obtain ⟨hf, hn⟩ := List.mem_filter.mp (List.mem_of_getLast? h)
    exact (hmem e).mp ⟨hf, of_decide_eq_true hn⟩
  · intro h
    have hfound := (hmem e).mpr h
    cases hlast : (found.filter fun e => e.name = n).getLast? with
    | none =>
      rw [List.getLast?_eq_none_iff, List.filter_eq_nil_iff] at hlast
      exact absurd (by simpa using hfound.2) (hlast e hfound.1)
    | some f =>
      obtain ⟨hf, hn⟩ := List.mem_filter.mp (List.mem_of_getLast? hlast)
      have hf' := ((hmem f).mp ⟨hf, of_decide_eq_true hn⟩).1
      rw [← h.1, hf']

theorem IsCatalogOf.isOwner_dataset (h : IsCatalogOf registry ts c) (n : String) :
    Dataset.isOwner c.dataset.trackers n = Dataset.isOwner c.trackers n := by
  have hany : ∀ m : TextMap Tracker,
      Dataset.isOwner m n = (m.values.map Tracker.owner).any (· == some n) := fun m => by
    rw [Dataset.isOwner, List.any_map]
    rfl
  rw [hany, hany, h.owners_dataset]

theorem IsCatalogOf.entitiesByName_entities (h : IsCatalogOf registry ts c) :
    Dataset.entitiesByName c.entities.values = c.entities := by
  have hself : ∀ n e, c.entities.get? n = some e → e.normalize? = some e ∧ e.name = n := by
    intro n e he
    have hget := (h.get?_entities_eq_some_iff.mp he).1
    exact ⟨(h.sound.normal n e hget).normalize?_eq, h.sound.name n e hget⟩
  refine TextMap.ext_get? fun n => ?_
  rw [Dataset.entitiesByName_eq, TextMap.get?_ofList_values]
  · cases he : c.entities.get? n with
    | none => rfl
    | some e => rw [Option.bind_some, (hself n e he).1]
  · intro n e f he hf
    rw [(hself n e he).1] at hf
    obtain rfl := Option.some.inj hf
    exact (hself n e he).2

/-- The dataset has the entities of the catalog. -/
theorem IsCatalogOf.entities_dataset (h : IsCatalogOf registry ts c) :
    c.dataset.entities = c.entities := by
  refine TextMap.ext_get? fun n => ?_
  have hget : c.dataset.entities.get? n = ((Dataset.entitiesByName c.entities.values).get? n).filter
      fun _ => Dataset.isOwner c.dataset.trackers n := Dataset.get?_entities_build _ _ n
  rw [hget, h.entitiesByName_entities, h.isOwner_dataset]
  cases he : c.entities.get? n with
  | none => rfl
  | some e => rw [Option.filter_some, if_pos (h.get?_entities_eq_some_iff.mp he).2]

/-! ## Agreement -/

theorem IsCatalogOf.unresolvedOwners_eq (h : IsCatalogOf registry ts c) :
    c.unresolvedOwners =
      (Dataset.buildStats c.trackers.values c.entities.values).unresolvedOwners := by
  let missing : Option String → Bool :=
    fun owner => owner.any fun owner => !c.entities.contains owner
  have hcatalog : c.unresolvedOwners = (c.trackers.values.map Tracker.owner).countP missing := by
    have hcount : c.unresolvedOwners = (c.trackers.values.filterMap Tracker.owner).countP
        fun owner => (registry.find? owner).isNone := by
      rw [h.eq]
      rfl
    rw [hcount, List.countP_filterMap, List.countP_map]
    refine List.countP_congr fun u hu => ?_
    obtain ⟨k, hu⟩ := TextMap.mem_values_iff.mp hu
    obtain ⟨r, t, -, -, rfl⟩ := h.get?_trackers_eq_some_iff.mp hu
    cases howner : (resolveOwner registry t).owner with
    | none => simp [missing, howner]
    | some owner =>
      have hcontains : c.entities.contains owner = (registry.find? owner).isSome := by
        have hisOwner : Dataset.isOwner c.trackers owner := isOwner_iff.mpr ⟨k, _, hu, howner⟩
        rw [find?_owner_resolveOwner h.sound howner, Bool.eq_iff_iff, TextMap.contains_iff,
          Option.isSome_iff_exists]
        exact exists_congr fun e => by
          rw [h.get?_entities_eq_some_iff, and_iff_left hisOwner]
      simp [missing, howner, hcontains]
  have hdataset : (Dataset.buildStats c.trackers.values c.entities.values).unresolvedOwners =
      (c.dataset.trackers.values.map Tracker.owner).countP missing := by
    have hcount : (Dataset.buildStats c.trackers.values c.entities.values).unresolvedOwners =
        c.dataset.trackers.values.countP
          (Dataset.isUnresolved (Dataset.entitiesByName c.entities.values)) :=
      Dataset.unresolvedOwners_buildStats _ _
    rw [hcount, h.entitiesByName_entities, List.countP_map]
    rfl
  rw [hcatalog, hdataset, h.owners_dataset]

/-- The owner of a tracker in the dataset is what the registry finds for the owner that its record
gives. -/
theorem IsCatalogOf.ownerOf?_dataset (h : IsCatalogOf registry ts c) {k : String} {v : Tracker} :
    c.dataset.tracker? k = some v →
      ∃ r, (ts.findRev? (·.isFor k)) = some r ∧
        c.dataset.ownerOf? v = r.ownerName?.bind registry.find? := by
  intro hv
  obtain ⟨-, hnone⟩ | ⟨u, v', hu, hv', howner⟩ := h.tracker?_dataset k
  · rw [hnone] at hv
    cases hv
  obtain rfl : v' = v := Option.some.inj (hv'.symm.trans hv)
  obtain ⟨r, t, hfind, ht, rfl⟩ := h.get?_trackers_eq_some_iff.mp hu
  refine ⟨r, hfind, ?_⟩
  have hrecord : r.ownerName?.bind registry.find? = t.owner.bind registry.find? := by
    obtain ⟨domain, rules, -, -, rfl⟩ := Tracker.normalize_eq_ok_iff.mp ht
    exact (normalOwner_bind_find? registry r).symm
  have hentity : ∀ owner, (resolveOwner registry t).owner = some owner →
      c.dataset.entity? owner = registry.find? owner := by
    intro owner ho
    have hisOwner : Dataset.isOwner c.trackers owner := isOwner_iff.mpr ⟨k, _, hu, ho⟩
    rw [Dataset.entity?, h.entities_dataset, find?_owner_resolveOwner h.sound ho]
    exact Option.ext fun e => by rw [h.get?_entities_eq_some_iff, and_iff_left hisOwner]
  rw [hrecord, Dataset.ownerOf?, howner]
  obtain ⟨e, hfound, ho, hget⟩ | ⟨hnone, ho⟩ := owner_resolveOwner h.sound t
  · rw [ho, Option.bind_some, hentity _ ho, hfound]
    exact h.sound.find?_of_get? hget
  · rw [ho]
    cases howner' : t.owner with
    | none => rfl
    | some owner =>
      rw [Option.bind_some, hentity owner (ho.trans howner')]
      rfl

/-- The records in the descriptor files at or below a path, without those that cannot be read. -/
def recordsOf (t : FileTree) (files : List Path) : List Tracker :=
  files.filterMap fun file => (readDescriptor t Tracker.read file).toOption

/-- How a catalog is made of records: in memory, or from files. -/
inductive IsMadeOf (registry : EntityRegistry) : List Tracker → TrackerCatalog → Prop where
  | ofTrackers (ts : List Tracker) : IsMadeOf registry ts (ofTrackers registry ts)
  | load {t : FileTree} {path : String} {files : List Path} {c : TrackerCatalog}
      (hfiles : listDescriptors t path (fun _ => true) = .ok files)
      (h : load t path registry = .ok c) : IsMadeOf registry (recordsOf t files) c

theorem toOption_readFile (t : FileTree) (file : Path) :
    (readFile t file).toOption =
      (readDescriptor t Tracker.read file).toOption.bind fun r => r.normalize.toOption := by
  rw [readFile]
  cases readDescriptor t Tracker.read file with
  | error reason => rfl
  | ok r =>
    cases hn : r.normalize <;> simp [bind, Except.bind, Except.mapError, Except.toOption, hn]

theorem load_eq_ok_iff {t : FileTree} {path : String} :
    load t path registry = .ok c ↔
      ∃ files, listDescriptors t path (fun _ => true) = .ok files ∧
        c = ofValid registry (files.filterMap fun file => (readFile t file).toOption)
          (.ofResults (files.map fun file => (file, readFile t file))) := by
  rw [load, bind_eq_ok_iff]
  refine exists_congr fun files => and_congr_right fun _ => ?_
  have hvalid : (files.map fun file => (file, readFile t file)).filterMap (·.2.toOption) =
      files.filterMap fun file => (readFile t file).toOption := List.filterMap_map
  rw [← hvalid]
  exact ⟨fun h => (Except.ok.inj h).symm, fun h => congrArg Except.ok h.symm⟩

theorem isCatalogOf_of_isMadeOf (hr : registry.IsSound) (h : IsMadeOf registry ts c) :
    IsCatalogOf registry ts c := by
  refine ⟨hr, ?_⟩
  cases h with
  | ofTrackers ts => rfl
  | @load t path files c hfiles h =>
    obtain ⟨files', hfiles', rfl⟩ := load_eq_ok_iff.mp h
    obtain rfl : files' = files := Except.ok.inj (hfiles'.symm.trans hfiles)
    have hvalid : (files'.filterMap fun file => (readFile t file).toOption) =
        validTrackers (recordsOf t files') := by
      rw [validTrackers, recordsOf, List.filterMap_filterMap]
      exact List.filterMap_congr fun file _ => toOption_readFile t file
    rw [hvalid]
    rfl

/-! ## Catalogs of files -/

/-- A file that a tracker of a catalog may come from. -/
structure IsValidFile (t : FileTree) (path : String) (file : Path) (u : Tracker) : Prop where
  below : t.IsFileBelow (.ofText path) file
  read : readFile t file = .ok u

/-- A catalog as it is loaded from the valid files, in the order of their paths. -/
structure IsLoadedFrom (t : FileTree) (path : String) (registry : EntityRegistry)
    (xs : List (Path × Tracker)) (c : TrackerCatalog) : Prop where
  order : InPathOrder xs
  mem_iff : ∀ file u, (file, u) ∈ xs ↔ IsValidFile t path file u
  eq : c = ofValid registry (xs.map Prod.snd) c.report
  loaded : c.report.loaded = xs.length
  isReportOf : c.report.IsReportOf (t.IsFileBelow (.ofText path)) (readFile t)

theorem exists_isLoadedFrom_of_load {t : FileTree} {path : String}
    (h : load t path registry = .ok c) : ∃ xs, IsLoadedFrom t path registry xs c := by
  obtain ⟨files, hfiles, rfl⟩ := load_eq_ok_iff.mp h
  have hpairwise := pairwise_of_listDescriptors hfiles
  have hmem : ∀ file, file ∈ files ↔ t.IsFileBelow (.ofText path) file := fun file => by
    simp [mem_of_listDescriptors hfiles]
  refine ⟨validRecords (readFile t) files, inPathOrder_validRecords hpairwise, ?_, ?_,
    LoadReport.loaded_ofResults, ?_⟩
  · intro file u
    rw [mem_validRecords_iff, hmem]
    exact ⟨fun h => ⟨h.1, h.2⟩, fun h => ⟨h.below, h.read⟩⟩
  · rw [map_snd_validRecords]
    rfl
  · have hreport := @LoadReport.isReportOf_ofResults _ (readFile t) files hpairwise
    simp only [hmem] at hreport
    exact hreport

/-- The tracker for a domain comes from the last valid file with that domain. -/
theorem IsLoadedFrom.get?_trackers_eq_some_iff {t : FileTree} {path : String}
    {xs : List (Path × Tracker)} (h : IsLoadedFrom t path registry xs c) {k : String}
    {v : Tracker} :
    c.trackers.get? k = some v ↔
      ∃ file u, IsLastFor (IsValidFile t path) Tracker.domain k file u ∧
        resolveOwner registry u = v := by
  have hget : c.trackers.get? k =
      ((xs.filter fun x => x.2.domain = k).getLast?).map fun x => resolveOwner registry x.2 := by
    rw [h.eq, ofValid, TextMap.get?_ofList, List.map_map, List.filter_map, List.getLast?_map,
      Option.map_map]
    simp [Function.comp_def, eq_comm]
  simp only [hget, Option.map_eq_some_iff, Prod.exists, h.order.isLastFor_iff h.mem_iff]

/-! ## The main statement -/

/-- A catalog and its dataset have the same trackers and entities, and the owner of a tracker is
what the registry finds for the owner in the record that counts. -/
structure AgreesWithDataset (registry : EntityRegistry) (ts : List Tracker) (c : TrackerCatalog) :
    Prop where
  domains : c.dataset.trackers.keys = c.trackers.keys
  record : ∀ k t, c.dataset.tracker? k = some t → ∃ r, (ts.findRev? (·.isFor k)) = some r
  owner : ∀ k t r, c.dataset.tracker? k = some t → (ts.findRev? (·.isFor k)) = some r →
    c.dataset.ownerOf? t = r.ownerName?.bind registry.find?
  owner_eq_none : ∀ k t r, c.dataset.tracker? k = some t → (ts.findRev? (·.isFor k)) = some r →
    (c.dataset.ownerOf? t = none ↔
      r.ownerName? = none ∨ ∃ name, r.ownerName? = some name ∧ registry.find? name = none)
  entities : c.dataset.entities = c.entities
  unresolvedOwners : c.unresolvedOwners =
    (Dataset.buildStats c.trackers.values c.entities.values).unresolvedOwners

/-- A catalog agrees with its dataset, whatever the records and the registry are made of. -/
theorem agreesWithDataset_of_isMadeOf (hregistry : registry.IsMade) (h : IsMadeOf registry ts c) :
    AgreesWithDataset registry ts c := by
  have hc := isCatalogOf_of_isMadeOf hregistry.isSound h
  have howner : ∀ k t r, c.dataset.tracker? k = some t → (ts.findRev? (·.isFor k)) = some r →
      c.dataset.ownerOf? t = r.ownerName?.bind registry.find? := by
    intro k t r ht hr
    obtain ⟨r', hr', heq⟩ := hc.ownerOf?_dataset ht
    obtain rfl : r' = r := Option.some.inj (hr'.symm.trans hr)
    exact heq
  refine ⟨hc.keys_dataset, ?_, howner, ?_, hc.entities_dataset, hc.unresolvedOwners_eq⟩
  · intro k t ht
    obtain ⟨r, hr, -⟩ := hc.ownerOf?_dataset ht
    exact ⟨r, hr⟩
  · intro k t r ht hr
    rw [howner k t r ht hr]
    cases r.ownerName? <;> simp

end

open scoped Pattern.Estimate

/-- An owner that the registry knows by its key. -/
theorem agreesWithDataset_key :
    AgreesWithDataset (.ofEntities [.named "T/Co" ["t-site.example"]])
      [{ Tracker.forDomain "t.example" .block with owner := some " TCo! " }]
      (ofTrackers (.ofEntities [.named "T/Co" ["t-site.example"]])
        [{ Tracker.forDomain "t.example" .block with owner := some " TCo! " }]) :=
  agreesWithDataset_of_isMadeOf (.ofEntities _) (.ofTrackers _)

/-- A blank owner is no owner, even where the registry has an entity with an empty key. -/
theorem exists_ownerOf?_ne_find?_of_blank :
    ∃ t, (ofTrackers (.ofEntities [.named "!" []])
          [{ Tracker.forDomain "t.example" .block with owner := some " " }]).dataset.tracker?
        "t.example" = some t ∧
      (EntityRegistry.ofEntities [.named "!" []]).find? " " = some (.named "!" []) ∧
      (ofTrackers (.ofEntities [.named "!" []])
        [{ Tracker.forDomain "t.example" .block with owner := some " " }]).dataset.ownerOf? t =
          none := by
  refine ⟨.forDomain "t.example" .block, ?_, ?_, ?_⟩
  · decide +kernel
  · decide +kernel
  · rfl

end TrackerCatalog

end Blocklist
