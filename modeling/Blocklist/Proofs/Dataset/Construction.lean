import Blocklist.Dataset
import Blocklist.Proofs.Entity
import Blocklist.Proofs.Tracker.NormalForm

/-! # What a dataset is built from

The trackers, entities and owners of a dataset in terms of the records that it is built from. Main
statement: `isBuiltFrom_build`. -/

namespace Blocklist

open Text

/-! ## The last of several records -/

/-- A search from the end for a record with a result: all that pass the test have one. -/
theorem findSomeRev?_ite {α : Type u} {β : Type v} {f : α → Option β} {p : α → Bool}
    (xs : List α) (hsome : ∀ x, p x → (f x).isSome) :
    (xs.findSomeRev? fun x => if p x then f x else none) = (xs.findRev? p).bind f := by
  rw [List.findSomeRev?_eq_findSome?_reverse, List.findRev?_eq_find?_reverse]
  induction xs.reverse with
  | nil => rfl
  | cons x xs ih =>
    by_cases hx : p x
    · obtain ⟨y, hy⟩ := Option.isSome_iff_exists.mp (hsome x hx)
      simp [hx, hy]
    · simp [hx, ih]

/-- Indexing the results for some records by a key of their own. -/
theorem get?_ofList_filterMap {α : Type u} {β : Type v} (f : α → Option β)
    (key : β → String) (xs : List α) (k : String) :
    (TextMap.ofList ((xs.filterMap f).map fun y => (key y, y))).get? k =
      xs.findSomeRev? fun x => (f x).filter (key · = k) := by
  rw [TextMap.get?_ofList_map, List.filter_filterMap, List.getLast?_filterMap,
    List.findSomeRev?_eq_findSome?_reverse]

/-- An index has the last record in normal form for every key. -/
theorem Dataset.Index.records_ofList {α : Type u} {β : Type v} (key : β → String) (f : α → Option β)
    (xs : List α) :
    (ofList key (xs.map f)).records =
      TextMap.ofList ((xs.filterMap f).map fun y => (key y, y)) := by
  induction xs using List.reverseRecOn with
  | nil => rfl
  | append_singleton xs x ih =>
    have hstep : ofList key ((xs ++ [x]).map f) = (ofList key (xs.map f)).add key (f x) := by
      simp [ofList]
    rw [hstep, List.filterMap_append]
    cases hx : f x with
    | none => simp [add, ih, hx]
    | some y => simp [add, ih, hx, TextMap.ofList]

/-! ## Trackers -/

section

variable [Pattern.SizeLimit]

/-- The valid ones of some trackers by their domains. -/
def Dataset.trackersByDomain (ts : List Tracker) : TextMap Tracker :=
  (trackerIndex ts).records

theorem Dataset.trackersByDomain_eq (ts : List Tracker) :
    trackersByDomain ts =
      .ofList ((ts.filterMap fun t => t.normalize.toOption).map fun t => (t.domain, t)) :=
  Index.records_ofList Tracker.domain (fun t : Tracker => t.normalize.toOption) ts

theorem get?_trackersByDomain (ts : List Tracker) (k : String) :
    (Dataset.trackersByDomain ts).get? k =
      ts.findSomeRev? fun t => t.normalize.toOption.filter (·.domain = k) := by
  rw [Dataset.trackersByDomain_eq, get?_ofList_filterMap]

theorem exists_of_get?_trackersByDomain {ts : List Tracker} {k : String} {t : Tracker}
    (h : (Dataset.trackersByDomain ts).get? k = some t) :
    t.domain = k ∧ ∃ t' ∈ ts, t'.normalize = .ok t := by
  rw [get?_trackersByDomain, List.findSomeRev?_eq_findSome?_reverse] at h
  obtain ⟨t', hmem, ht'⟩ := List.exists_of_findSome?_eq_some h
  obtain ⟨hok, hk⟩ := Option.filter_eq_some_iff.mp ht'
  refine ⟨of_decide_eq_true hk, t', List.mem_reverse.mp hmem, ?_⟩
  cases hn : t'.normalize with
  | error e => rw [hn] at hok; cases hok
  | ok u => rw [hn] at hok; rw [Option.some.inj hok]

end

/-! ## Entities -/

/-- The valid ones of some entities by their names. -/
def Dataset.entitiesByName (es : List Entity) : TextMap Entity :=
  (entityIndex es).records

theorem Dataset.entitiesByName_eq (es : List Entity) :
    entitiesByName es = .ofList ((es.filterMap Entity.normalize?).map fun e => (e.name, e)) :=
  Index.records_ofList Entity.name Entity.normalize? es

/-- Whether an entity with a name owns one of some trackers. -/
def Dataset.isOwner (trackers : TextMap Tracker) (name : String) : Bool :=
  trackers.values.any fun t => t.owner == some name

theorem isOwner_iff {trackers : TextMap Tracker} {name : String} :
    Dataset.isOwner trackers name ↔ ∃ k t, trackers.get? k = some t ∧ t.owner = some name := by
  simp only [Dataset.isOwner, List.any_eq_true, TextMap.mem_values_iff, beq_iff_eq]
  exact ⟨fun ⟨t, ⟨k, hk⟩, ht⟩ => ⟨k, t, hk, ht⟩, fun ⟨k, t, hk, ht⟩ => ⟨t, ⟨k, hk⟩, ht⟩⟩

theorem filter_normalize? (e : Entity) (name : String) :
    (e.normalize?.filter fun f => f.name = name) =
      if trim e.name = name then e.normalize? else none := by
  cases he : e.normalize? with
  | none => simp
  | some f => simp [Option.filter_some, Entity.name_of_normalize? he]

private theorem trim_name_of_findRev? {es : List Entity} {name : String} {e : Entity}
    (h : (es.findRev? fun e => trim e.name = name) = some e) : trim e.name = name := by
  rw [List.findRev?_eq_find?_reverse] at h
  simpa using List.find?_some h

/-- The last record with a name counts. Only records with the empty name are all invalid. -/
theorem get?_entitiesByName (es : List Entity) {name : String} (hname : name ≠ "") :
    (Dataset.entitiesByName es).get? name =
      (es.findRev? fun e => trim e.name = name).bind Entity.normalize? := by
  have hsome : ∀ e : Entity, decide (trim e.name = name) → e.normalize?.isSome := by
    intro e he
    rw [Option.isSome_iff_ne_none, ne_eq, Entity.normalize?_eq_none_iff, of_decide_eq_true he]
    exact hname
  rw [Dataset.entitiesByName_eq, get?_ofList_filterMap Entity.normalize? Entity.name,
    ← findSomeRev?_ite es hsome]
  simp only [filter_normalize?, decide_eq_true_eq]

/-! ## Owners of domains -/

/-- Entities are listed under their own names. -/
def ByName (entities : TextMap Entity) : Prop :=
  ∀ n e, entities.get? n = some e → e.name = n

theorem byName_entitiesByName (es : List Entity) : ByName (Dataset.entitiesByName es) := by
  intro n e h
  rw [Dataset.entitiesByName_eq, get?_ofList_filterMap Entity.normalize? Entity.name,
    List.findSomeRev?_eq_findSome?_reverse] at h
  obtain ⟨e', -, he'⟩ := List.exists_of_findSome?_eq_some h
  exact of_decide_eq_true (Option.filter_eq_some_iff.mp he').2

private theorem mem_owners_iff {entities : TextMap Entity} (hnames : ByName entities)
    {k n : String} :
    (k, n) ∈ (entities.values.flatMap fun e => e.domains.toList.map fun d => (d, e.name)) ↔
      ∃ e, entities.get? n = some e ∧ k ∈ e.domains := by
  simp only [List.mem_flatMap, List.mem_map, Prod.mk.injEq, TextMap.mem_values_iff]
  constructor
  · rintro ⟨e, ⟨n', he⟩, d, hd, rfl, rfl⟩
    exact ⟨e, hnames n' e he ▸ he, hd⟩
  · rintro ⟨e, he, hk⟩
    exact ⟨e, ⟨n, he⟩, k, hk, rfl, hnames n e he⟩

private theorem pairwise_owners {entities : TextMap Entity} (hnames : ByName entities) :
    (entities.values.flatMap fun e => e.domains.toList.map fun d => (d, e.name)).Pairwise
      fun a b => a.2 ≤ b.2 := by
  have hascending : entities.values.Pairwise fun e f => e.name ≤ f.name := by
    refine List.pairwise_map.mpr (entities.ascending.imp_of_mem fun {a b} ha hb hlt => ?_)
    rw [hnames a.1 a.2 (TextMap.mem_entries_iff.mp ha),
      hnames b.1 b.2 (TextMap.mem_entries_iff.mp hb)]
    exact String.not_lt.mp (String.lt_asymm hlt)
  refine List.pairwise_flatMap.mpr ⟨fun e _ => ?_, hascending.imp fun {e f} hle => ?_⟩
  · exact List.pairwise_map.mpr (List.pairwise_of_forall fun _ _ => String.le_refl e.name)
  · intro a ha b hb
    obtain ⟨_, -, rfl⟩ := List.mem_map.mp ha
    obtain ⟨_, -, rfl⟩ := List.mem_map.mp hb
    exact hle

/-- The name that the index gives for a domain is the last one of those of its entities. -/
theorem get?_ownerIndex_eq_some_iff {entities : TextMap Entity} (hnames : ByName entities)
    {k n : String} :
    (ownerIndex entities).get? k = some n ↔
      (∃ e, entities.get? n = some e ∧ k ∈ e.domains) ∧
        ∀ m f, entities.get? m = some f → k ∈ f.domains → m ≤ n := by
  rw [ownerIndex, TextMap.get?_ofList_eq_some_iff (pairwise_owners hnames)]
  simp only [mem_owners_iff hnames]
  exact and_congr_right fun _ =>
    ⟨fun h m f hf hk => h m ⟨f, hf, hk⟩, fun h m ⟨f, hf, hk⟩ => h m f hf hk⟩

/-- The index has a name for every domain of an entity. -/
theorem get?_ownerIndex_eq_none_iff {entities : TextMap Entity} (hnames : ByName entities)
    {k : String} :
    (ownerIndex entities).get? k = none ↔ ∀ n e, entities.get? n = some e → k ∉ e.domains := by
  rw [ownerIndex, TextMap.get?_ofList_eq_none_iff]
  simp only [mem_owners_iff hnames]
  exact ⟨fun h n e he hk => h n ⟨e, he, hk⟩, fun h n ⟨e, he, hk⟩ => h n e he hk⟩

namespace Dataset

section

variable {d : Dataset} (hnames : ByName d.entities) {k : String}

include hnames

theorem entityForDomain?_eq_some_iff {e : Entity} :
    d.entityForDomain? k = some e ↔
      d.entity? e.name = some e ∧ k ∈ e.domains ∧
        ∀ f, d.entity? f.name = some f → k ∈ f.domains → f.name ≤ e.name := by
  have hindex : ∀ n, d.owners.get? k = some n ↔ _ := fun n =>
    d.owners_eq ▸ get?_ownerIndex_eq_some_iff hnames
  rw [entityForDomain?, Option.bind_eq_some_iff]
  constructor
  · rintro ⟨n, hn, he⟩
    obtain rfl : e.name = n := hnames n e he
    obtain ⟨⟨e', he', hk⟩, hmax⟩ := (hindex e.name).mp hn
    obtain rfl : e' = e := Option.some.inj (he'.symm.trans he)
    exact ⟨he, hk, fun f hf hkf => hmax f.name f hf hkf⟩
  · rintro ⟨he, hk, hmax⟩
    refine ⟨e.name, (hindex e.name).mpr ⟨⟨e, he, hk⟩, fun m f hf hkf => ?_⟩, he⟩
    obtain rfl : f.name = m := hnames m f hf
    exact hmax f hf hkf

/-- The owner that is given for a domain is one of the entities. -/
theorem exists_entity?_of_owners {n : String} (h : d.owners.get? k = some n) :
    ∃ e, d.entity? n = some e := by
  rw [d.owners_eq, get?_ownerIndex_eq_some_iff hnames] at h
  obtain ⟨⟨e, he, -⟩, -⟩ := h
  exact ⟨e, he⟩

theorem entityForDomain?_eq_none_iff :
    d.entityForDomain? k = none ↔ ∀ n e, d.entity? n = some e → k ∉ e.domains := by
  have hindex : d.owners.get? k = none ↔ ∀ n e, d.entity? n = some e → k ∉ e.domains :=
    d.owners_eq ▸ get?_ownerIndex_eq_none_iff hnames
  rw [← hindex, entityForDomain?]
  cases howner : d.owners.get? k with
  | none => simp
  | some n =>
    obtain ⟨e, he⟩ := exists_entity?_of_owners hnames howner
    simp [he]

end

theorem ownerOf?_eq_none_iff {d : Dataset} {t : Tracker} :
    d.ownerOf? t = none ↔
      t.owner = none ∨ ∃ n, t.owner = some n ∧ d.entities.contains n = false := by
  cases h : t.owner <;> simp [ownerOf?, h, entity?, TextMap.contains_eq_false_iff]

theorem entity?_name_of_ownerOf? {d : Dataset} (hnames : ByName d.entities) {t : Tracker}
    {owner : Entity} (h : d.ownerOf? t = some owner) : d.entity? owner.name = some owner := by
  obtain ⟨n, -, hn⟩ := Option.bind_eq_some_iff.mp h
  obtain rfl : owner.name = n := hnames n owner hn
  exact hn

/-! ## The parts of a dataset -/

theorem Owners.mem_live_ofList {entities : TextMap Entity} {ts : List Tracker} {name : String} :
    name ∈ (ofList entities ts).live ↔
      entities.contains name ∧ ∃ t ∈ ts, t.owner = some name := by
  induction ts using List.reverseRecOn with
  | nil => simp [ofList]
  | append_singleton ts t ih =>
    have hstep : ofList entities (ts ++ [t]) = (ofList entities ts).add entities t := by
      simp [ofList]
    rw [hstep, add]
    cases howner : t.owner with
    | none => simp [ih, howner]
    | some owner =>
      by_cases hknown : entities.contains owner
      · simp only [hknown, ↓reduceIte, TextSet.mem_insert, ih, List.mem_append,
          List.mem_singleton, or_and_right, exists_or, exists_eq_left, howner, Option.some.injEq]
        constructor
        · rintro (rfl | ⟨hname, ht⟩)
          · exact ⟨hknown, .inr rfl⟩
          · exact ⟨hname, .inl ht⟩
        · rintro ⟨hname, ht | rfl⟩
          · exact .inr ⟨hname, ht⟩
          · exact .inl rfl
      · simp only [hknown, Bool.false_eq_true, ↓reduceIte, ih, List.mem_append, List.mem_singleton,
          or_and_right, exists_or, exists_eq_left, howner, Option.some.injEq]
        refine and_congr_right fun hname => (or_iff_left ?_).symm
        rintro rfl
        exact hknown hname

variable [Pattern.SizeLimit]

/-- The entities that are kept are those that own a tracker. -/
theorem build_eq (ts : List Tracker) (es : List Entity) :
    build ts es = .ofMaps (trackersByDomain ts)
      ((entitiesByName es).filter fun name _ => isOwner (trackersByDomain ts) name) := by
  have hkept : ((entitiesByName es).filter fun name _ =>
      (Owners.ofList (entitiesByName es) (trackersByDomain ts).values).live.contains name) =
      (entitiesByName es).filter fun name _ => isOwner (trackersByDomain ts) name := by
    refine TextMap.ext_get? fun name => ?_
    rw [TextMap.get?_filter, TextMap.get?_filter]
    cases he : (entitiesByName es).get? name with
    | none => rfl
    | some e =>
      have hknown : (entitiesByName es).contains name := TextMap.contains_iff.mpr ⟨e, he⟩
      have hlive : (Owners.ofList (entitiesByName es)
          (trackersByDomain ts).values).live.contains name =
            isOwner (trackersByDomain ts) name := by
        rw [Bool.eq_iff_iff, TextSet.contains_iff, Owners.mem_live_ofList, and_iff_right hknown]
        simp [isOwner]
      rw [hlive]
  exact congrArg (ofMaps (trackersByDomain ts)) hkept

theorem get?_entities_build (ts : List Tracker) (es : List Entity) (n : String) :
    (build ts es).entities.get? n =
      ((entitiesByName es).get? n).filter fun _ => isOwner (trackersByDomain ts) n := by
  rw [build_eq]
  exact TextMap.get?_filter _ _ n

theorem tracker?_build (ts : List Tracker) (es : List Entity) (k : String) :
    (build ts es).tracker? k =
      ts.findSomeRev? fun t => t.normalize.toOption.filter (·.domain = k) :=
  get?_trackersByDomain ts k

theorem isNormal_of_tracker?_build {ts : List Tracker} {es : List Entity} {k : String}
    {t : Tracker} (h : (build ts es).tracker? k = some t) : t.IsNormal ∧ t.domain = k := by
  obtain ⟨hk, t', -, ht'⟩ := exists_of_get?_trackersByDomain h
  exact ⟨Tracker.isNormal_of_normalize ht', hk⟩

theorem entity?_build (ts : List Tracker) (es : List Entity) (n : String) :
    (build ts es).entity? n =
      if isOwner (build ts es).trackers n then
        (es.findRev? fun e => trim e.name = n).bind Entity.normalize?
      else none := by
  have hget : (build ts es).entity? n =
      ((entitiesByName es).get? n).filter fun _ => isOwner (build ts es).trackers n :=
    get?_entities_build ts es n
  rw [hget]
  by_cases howner : isOwner (build ts es).trackers n
  · obtain ⟨k, t, ht, hn⟩ := isOwner_iff.mp howner
    have hne : n ≠ "" := ((isNormal_of_tracker?_build ht).1.owner n hn).2
    rw [if_pos howner, ← get?_entitiesByName es hne]
    exact Option.ext fun e => by simp [howner, Option.filter_eq_some_iff]
  · simp [howner]

theorem entity?_build_eq_some_iff {ts : List Tracker} {es : List Entity} {n : String}
    {e : Entity} :
    (build ts es).entity? n = some e ↔
      (∃ k t, (build ts es).tracker? k = some t ∧ t.owner = some n) ∧
        ∃ e', (es.findRev? fun e => trim e.name = n) = some e' ∧ e'.normalize? = some e := by
  rw [entity?_build, Option.ite_none_right_eq_some, isOwner_iff, Option.bind_eq_some_iff]
  rfl

theorem entity?_build_eq_none_iff {ts : List Tracker} {es : List Entity} {n : String} :
    (build ts es).entity? n = none ↔
      (∀ k t, (build ts es).tracker? k = some t → t.owner ≠ some n) ∨
        ∀ e ∈ es, trim e.name ≠ n := by
  by_cases howner : isOwner (build ts es).trackers n
  · obtain ⟨k, t, ht, hn⟩ := isOwner_iff.mp howner
    have hne : n ≠ "" := ((isNormal_of_tracker?_build ht).1.owner n hn).2
    have hall : (es.findRev? fun e => trim e.name = n) = none ↔ ∀ e ∈ es, trim e.name ≠ n := by
      rw [List.findRev?_eq_find?_reverse]
      simp
    rw [entity?_build, if_pos howner, ← hall]
    constructor
    · intro hnone
      refine .inr (Option.eq_none_iff_forall_ne_some.mpr fun e he => ?_)
      rw [he, Option.bind_some, Entity.normalize?_eq_none_iff, trim_name_of_findRev? he] at hnone
      exact hne hnone
    · rintro (hno | hnone)
      · exact absurd hn (hno k t ht)
      · rw [hnone, Option.bind_none]
  · rw [entity?_build, if_neg howner]
    refine iff_of_true rfl (.inl fun k t ht hn => howner ?_)
    exact isOwner_iff.mpr ⟨k, t, ht, hn⟩

theorem isNormal_of_entity?_build {ts : List Tracker} {es : List Entity} {n : String}
    {e : Entity} (h : (build ts es).entity? n = some e) : e.IsNormal ∧ e.name = n := by
  rw [entity?_build, Option.ite_none_right_eq_some] at h
  obtain ⟨e', he', hnormal⟩ := Option.bind_eq_some_iff.mp h.2
  have hname : e.name = n := by
    rw [Entity.name_of_normalize? hnormal, trim_name_of_findRev? he']
  exact ⟨Entity.isNormal_of_normalize? hnormal, hname⟩

theorem byName_build (ts : List Tracker) (es : List Entity) : ByName (build ts es).entities :=
  fun _ _ h => (isNormal_of_entity?_build h).2

/-- A dataset holds what there is in some records. The last valid tracker for a domain counts, the
last entity with a name counts if it owns one of these trackers, and a domain belongs to that of
its entities whose name comes last. -/
structure IsBuiltFrom (ts : List Tracker) (es : List Entity) (d : Dataset) : Prop where
  /-- Invalid records hide nothing, wherever they stand. -/
  tracker : ∀ k, d.tracker? k =
    ts.findSomeRev? fun t => t.normalize.toOption.filter (·.domain = k)
  entity_eq_some : ∀ n e, d.entity? n = some e ↔
    (∃ k t, d.tracker? k = some t ∧ t.owner = some n) ∧
      ∃ e', (es.findRev? fun e => trim e.name = n) = some e' ∧ e'.normalize? = some e
  entity_eq_none : ∀ n, d.entity? n = none ↔
    (∀ k t, d.tracker? k = some t → t.owner ≠ some n) ∨ ∀ e ∈ es, trim e.name ≠ n
  entityForDomain_eq_some : ∀ k e, d.entityForDomain? k = some e ↔
    d.entity? e.name = some e ∧ k ∈ e.domains ∧
      ∀ f, d.entity? f.name = some f → k ∈ f.domains → f.name ≤ e.name
  entityForDomain_eq_none : ∀ k, d.entityForDomain? k = none ↔
    ∀ n e, d.entity? n = some e → k ∉ e.domains
  /-- The index of domains refers to entities that there are. -/
  owners : ∀ k n, d.owners.get? k = some n → ∃ e, d.entity? n = some e
  tracker_domain : ∀ k t, d.tracker? k = some t → t.domain = k ∧ Host.normalize? k = some k
  entity_name : ∀ n e, d.entity? n = some e → e.name = n
  ownerOf_eq_none : ∀ t, d.ownerOf? t = none ↔
    t.owner = none ∨ ∃ n, t.owner = some n ∧ d.entities.contains n = false

theorem isBuiltFrom_build (ts : List Tracker) (es : List Entity) :
    IsBuiltFrom ts es (build ts es) where
  tracker := tracker?_build ts es
  entity_eq_some := fun _ _ => entity?_build_eq_some_iff
  entity_eq_none := fun _ => entity?_build_eq_none_iff
  entityForDomain_eq_some := fun _ _ => entityForDomain?_eq_some_iff (byName_build ts es)
  entityForDomain_eq_none := fun _ => entityForDomain?_eq_none_iff (byName_build ts es)
  owners := fun _ _ => exists_entity?_of_owners (byName_build ts es)
  tracker_domain := fun k t h => by
    obtain ⟨hnormal, rfl⟩ := isNormal_of_tracker?_build h
    exact ⟨rfl, hnormal.domain⟩
  entity_name := byName_build ts es
  ownerOf_eq_none := fun _ => ownerOf?_eq_none_iff

end Dataset

end Blocklist
