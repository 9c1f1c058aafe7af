import Blocklist.Proofs.Corpus.EntityRegistry
import Blocklist.Proofs.TextMap
import Mathlib.Data.List.Dedup

/-! # Looking up owners after any history of definitions

A registry is what is left of a history of definitions of entities. Entities and names are kept
apart: a later definition replaces the entity with its name, and it takes over the keys that it is
recorded under, whatever entity they led to before. What an owner leads to is told by the history
alone. -/

namespace Blocklist

/-- The last item of a list with a property. -/
def IsLast {α : Type u} (p : α → Prop) (xs : List α) (x : α) : Prop :=
  p x ∧ ∃ before after, xs = before ++ x :: after ∧ ∀ y ∈ after, ¬ p y

theorem isLast_iff_getLast?_filter {α : Type u} {p : α → Prop} [DecidablePred p] {xs : List α}
    {x : α} : IsLast p xs x ↔ (xs.filter (p ·)).getLast? = some x := by
  rw [List.getLast?_filter, List.find?_eq_some_iff_append]
  simp only [decide_eq_true_eq, Bool.not_eq_true', decide_eq_false_iff_not]
  constructor
  · rintro ⟨hx, before, after, rfl, hafter⟩
    exact ⟨hx, after.reverse, before.reverse, by simp, by simpa using hafter⟩
  · rintro ⟨hx, after, before, heq, hafter⟩
    refine ⟨hx, before.reverse, after.reverse, ?_, by simpa using hafter⟩
    rw [← List.reverse_reverse xs, heq]
    simp

namespace EntityRegistry

open Text

/-- A definition of an entity, with the stem of its file if it comes from a file with one. -/
structure Definition where
  stem? : Option String
  entity : Entity

namespace Definition

/-- The texts whose keys lead to the entity from here on. -/
def texts (d : Definition) : List String := d.stem?.toList ++ [d.entity.name]

/-- The keys of a definition, each with the name it is recorded for. That of the stem comes before
that of the name. -/
def records (d : Definition) : List (String × String) :=
  d.texts.map fun text => (key text, d.entity.name)

end Definition

/-- The names that are recorded in a history, in the order in which that happens. -/
def recordsOf (history : List Definition) : List (String × String) :=
  history.flatMap Definition.records

/-- The last definition of the entity with a name. -/
def IsLastDefinition (history : List Definition) (n : String) (e : Entity) : Prop :=
  IsLast (fun e => e.name = n) (history.map Definition.entity) e

/-- The name that was recorded last under a key. -/
def IsLastRecorded (history : List Definition) (k n : String) : Prop :=
  IsLast (fun record => record.1 = k) (recordsOf history) (k, n)

/-- What an owner leads to after some definitions: its own name comes first, then its key. -/
inductive LeadsTo (history : List Definition) (owner : String) : Option Entity → Prop where
  | byName {e : Entity} (h : IsLastDefinition history (trim owner) e) :
    LeadsTo history owner (some e)
  | byKey {n : String} {e : Entity} (hname : ∀ d ∈ history, d.entity.name ≠ trim owner)
      (hkey : IsLastRecorded history (key (trim owner)) n) (h : IsLastDefinition history n e) :
      LeadsTo history owner (some e)
  | nothing (hname : ∀ d ∈ history, d.entity.name ≠ trim owner)
      (hkey : ∀ d ∈ history, ∀ text ∈ d.texts, key text ≠ key (trim owner)) :
      LeadsTo history owner none

/-- The histories of a registry: of the entities in memory that have a name, in the order in which
they are given, or of the entities in the valid files, in the order of their paths. -/
inductive IsAfter : List Definition → EntityRegistry → Prop where
  | ofEntities (es : List Entity) :
    IsAfter ((es.filterMap Entity.normalize?).map fun e => ⟨none, e⟩) (ofEntities es)
  | load {t : FileTree} {path : String} {r : EntityRegistry} {xs : List (Path × Entity)}
      (h : load t path = .ok r) (horder : InPathOrder xs)
      (hmem : ∀ file e, (file, e) ∈ xs ↔ IsValidFile t path file e) :
    IsAfter (xs.map fun x => ⟨x.1.stem?, x.2⟩) r

/-- A registry answers as its history tells. -/
structure Tells (history : List Definition) (r : EntityRegistry) : Prop where
  find?_iff : ∀ owner found, r.find? owner = found ↔ LeadsTo history owner found
  /-- The keys of the registry are those that are recorded, and each of them leads to an entity that
  is there under its name. -/
  key_iff : ∀ k, (∃ n, (k, n) ∈ recordsOf history) ↔
    ∃ n e, r.names.get? k = some n ∧ r.entities.get? n = some e ∧ e.name = n
  /-- There are as many entities as names. -/
  size : r.entities.size = (history.map fun d => d.entity.name).dedup.length
  loaded : r.report.loaded = history.length

/-! ## One definition after the other -/

/-- Takes up a definition, as `insert` does without a stem and `insertFile` with that of the
file. -/
def define (r : EntityRegistry) (d : Definition) : EntityRegistry :=
  { r with
    names := d.stem?.elim r.names fun stem => r.names.insert (key stem) d.entity.name }.insert
    d.entity

theorem names_define (r : EntityRegistry) (d : Definition) :
    (r.define d).names = d.records.foldl (fun m record => m.insert record.1 record.2) r.names := by
  obtain ⟨_ | stem, e⟩ := d <;> rfl

variable {history : List Definition}

theorem entities_foldl_define (history : List Definition) :
    (history.foldl define empty).entities =
      .ofList ((history.map Definition.entity).map fun e => (e.name, e)) := by
  rw [TextMap.ofList, List.foldl_map, List.foldl_map]
  exact (List.foldl_hom EntityRegistry.entities fun _ _ => rfl).symm

theorem names_foldl_define (history : List Definition) :
    (history.foldl define empty).names = .ofList (recordsOf history) := by
  rw [TextMap.ofList, recordsOf, List.foldl_flatMap]
  exact (List.foldl_hom EntityRegistry.names fun r d => (names_define r d).symm).symm

/-! ## What is left of a history -/

/-- The maps of a registry are those that its history leaves. -/
structure IsLeftBy (history : List Definition) (r : EntityRegistry) : Prop where
  entities : r.entities = (history.foldl define empty).entities
  names : r.names = (history.foldl define empty).names
  loaded : r.report.loaded = history.length

theorem IsAfter.isLeftBy {r : EntityRegistry} (h : IsAfter history r) : IsLeftBy history r := by
  cases h with
  | ofEntities es =>
    have hfold : (es.filterMap Entity.normalize?).foldl insert empty =
        ((es.filterMap Entity.normalize?).map fun e => (⟨none, e⟩ : Definition)).foldl define
          empty := by
      rw [List.foldl_map]
      rfl
    constructor
    · rw [← hfold, EntityRegistry.ofEntities]
    · rw [← hfold, EntityRegistry.ofEntities]
    · rw [List.length_map, EntityRegistry.ofEntities]
  | @load t path r xs h horder hmem =>
    obtain ⟨ys, hys⟩ := exists_isLoadedFrom_of_load h
    have hxs : xs = ys := horder.eq_of_mem_iff hys.order fun x => by
      rw [hmem x.1 x.2, hys.mem_iff x.1 x.2]
    have hfold : ofRecords xs = (xs.map fun x => (⟨x.1.stem?, x.2⟩ : Definition)).foldl define
        empty := by
      rw [List.foldl_map]
      rfl
    constructor
    · rw [← hfold, hxs, hys.entities]
    · rw [← hfold, hxs, hys.names]
    · rw [List.length_map, hxs, hys.loaded]

theorem IsMade.exists_isAfter {r : EntityRegistry} (h : r.IsMade) :
    ∃ history, IsAfter history r := by
  cases h with
  | ofEntities es => exact ⟨_, .ofEntities es⟩
  | load h =>
    obtain ⟨xs, hxs⟩ := exists_isLoadedFrom_of_load h
    exact ⟨_, .load h hxs.order hxs.mem_iff⟩

variable {r : EntityRegistry} (h : IsLeftBy history r)

include h

/-- The entity under a name is the last one that is defined with it. -/
theorem IsLeftBy.get?_entities_iff {n : String} {e : Entity} :
    r.entities.get? n = some e ↔ IsLastDefinition history n e := by
  rw [IsLastDefinition, isLast_iff_getLast?_filter, h.entities, entities_foldl_define,
    TextMap.get?_ofList_map]

/-- The name under a key is the last one that is recorded there. -/
theorem IsLeftBy.get?_names_iff {k n : String} :
    r.names.get? k = some n ↔ IsLastRecorded history k n := by
  have hget : r.names.get? k =
      (((recordsOf history).filter fun record => record.1 = k).getLast?).map Prod.snd := by
    rw [h.names, names_foldl_define, TextMap.get?_ofList]
    simp only [eq_comm]
  rw [IsLastRecorded, isLast_iff_getLast?_filter, hget, Option.map_eq_some_iff]
  constructor
  · rintro ⟨⟨k', n'⟩, hlast, rfl⟩
    obtain rfl : k' = k := of_decide_eq_true (List.mem_filter.mp (List.mem_of_getLast? hlast)).2
    exact hlast
  · exact fun hlast => ⟨(k, n), hlast, rfl⟩

theorem IsLeftBy.get?_entities_eq_none_iff {n : String} :
    r.entities.get? n = none ↔ ∀ d ∈ history, d.entity.name ≠ n := by
  rw [h.entities, entities_foldl_define, TextMap.get?_ofList_eq_none_iff]
  simp only [List.map_map, List.mem_map, Function.comp_apply, Prod.mk.injEq, not_exists, not_and]
  constructor
  · exact fun hnone d hd hname => hnone d.entity d hd hname rfl
  · rintro hnone e d hd hname rfl
    exact hnone d hd hname

theorem IsLeftBy.get?_names_eq_none_iff {k : String} :
    r.names.get? k = none ↔ ∀ n, (k, n) ∉ recordsOf history := by
  rw [h.names, names_foldl_define, TextMap.get?_ofList_eq_none_iff]

omit h

theorem mem_recordsOf_iff {k n : String} :
    (k, n) ∈ recordsOf history ↔
      ∃ d ∈ history, ∃ text ∈ d.texts, key text = k ∧ d.entity.name = n := by
  simp only [recordsOf, Definition.records, List.mem_flatMap, List.mem_map, Prod.mk.injEq]

include h

/-- A key leads to an entity that is there, under its name. -/
theorem IsLeftBy.exists_entity {k n : String} (hget : r.names.get? k = some n) :
    ∃ e, r.entities.get? n = some e ∧ e.name = n := by
  -- A name is recorded together with its definition, and no definition is ever taken back.
  obtain ⟨-, before, after, heq, -⟩ := h.get?_names_iff.mp hget
  have hmem : (k, n) ∈ recordsOf history := by simp [heq]
  obtain ⟨d, hd, -, -, -, hname⟩ := mem_recordsOf_iff.mp hmem
  cases hentity : r.entities.get? n with
  | none => exact absurd hname (h.get?_entities_eq_none_iff.mp hentity d hd)
  | some e => exact ⟨e, rfl, (h.get?_entities_iff.mp hentity).1⟩

theorem IsLeftBy.size_entities :
    r.entities.size = (history.map fun d => d.entity.name).dedup.length := by
  have hnodup : r.entities.keys.Nodup := by
    rw [TextMap.keys, List.nodup_iff_pairwise_ne, List.pairwise_map]
    exact r.entities.ascending.imp fun hlt => String.ne_of_lt hlt
  have hmem : ∀ n, n ∈ r.entities.keys ↔ n ∈ (history.map fun d => d.entity.name).dedup := by
    intro n
    rw [TextMap.mem_keys_iff, List.mem_dedup, ← not_iff_not, ← Option.isSome_iff_exists,
      Option.not_isSome_iff_eq_none, h.get?_entities_eq_none_iff]
    simp
  rw [← ((List.perm_ext_iff_of_nodup hnodup (List.nodup_dedup _)).mpr hmem).length_eq,
    TextMap.keys, List.length_map, TextMap.size]

theorem IsLeftBy.leadsTo (owner : String) : LeadsTo history owner (r.find? owner) := by
  rw [find?]
  cases hentity : r.entities.get? (trim owner) with
  | some e => exact .byName (h.get?_entities_iff.mp hentity)
  | none =>
    have hname := h.get?_entities_eq_none_iff.mp hentity
    cases hkey : r.names.get? (key (trim owner)) with
    | none =>
      refine .nothing hname fun d hd text htext heq => ?_
      exact h.get?_names_eq_none_iff.mp hkey _
        (mem_recordsOf_iff.mpr ⟨d, hd, text, htext, heq, rfl⟩)
    | some n =>
      obtain ⟨e, he, -⟩ := h.exists_entity hkey
      rw [Option.bind_some, he]
      exact .byKey hname (h.get?_names_iff.mp hkey) (h.get?_entities_iff.mp he)

theorem IsLeftBy.find?_of_leadsTo {owner : String} {found : Option Entity}
    (hfound : LeadsTo history owner found) : r.find? owner = found := by
  rw [find?]
  cases hfound with
  | byName he =>
    rw [h.get?_entities_iff.mpr he]
    rfl
  | byKey hname hkey he =>
    rw [h.get?_entities_eq_none_iff.mpr hname, h.get?_names_iff.mpr hkey, Option.bind_some,
      h.get?_entities_iff.mpr he]
    rfl
  | nothing hname hkey =>
    have hnone : r.names.get? (key (trim owner)) = none := by
      refine h.get?_names_eq_none_iff.mpr fun n hn => ?_
      obtain ⟨d, hd, text, htext, heq, -⟩ := mem_recordsOf_iff.mp hn
      exact hkey d hd text htext heq
    rw [h.get?_entities_eq_none_iff.mpr hname, hnone]
    rfl

theorem IsLeftBy.tells : Tells history r where
  find?_iff := fun owner _ => ⟨fun heq => heq ▸ h.leadsTo owner, h.find?_of_leadsTo⟩
  key_iff := by
    intro k
    constructor
    · rintro ⟨n, hn⟩
      cases hkey : r.names.get? k with
      | none => exact absurd hn (h.get?_names_eq_none_iff.mp hkey n)
      | some n' =>
        obtain ⟨e, he⟩ := h.exists_entity hkey
        exact ⟨n', e, rfl, he⟩
    · rintro ⟨n, -, hkey, -⟩
      obtain ⟨-, before, after, heq, -⟩ := h.get?_names_iff.mp hkey
      exact ⟨n, by simp [heq]⟩
  size := h.size_entities
  loaded := h.loaded

omit h

/-- A registry that is made of entities or of files has a history, and it answers as its history
tells. -/
theorem tells_of_isMade (h : r.IsMade) :
    (∃ history, IsAfter history r) ∧ ∀ history, IsAfter history r → Tells history r :=
  ⟨h.exists_isAfter, fun _ hhistory => hhistory.isLeftBy.tells⟩

/-- Files of two entities. One is defined twice, and the stem of the last file is the key of its
name. -/
def renamedEntities : FileTree :=
  ((FileTree.empty.place ["entities", "sub", "A.json"]
    (.file "\x7b\"name\": \"C\"\x7d".toUTF8.toList)).place ["entities", "B.json"]
    (.file "\x7b\"name\": \"A!\", \"display_name\": \"later\"\x7d".toUTF8.toList)).place
    ["entities", "A.json"] (.file "\x7b\"name\": \"A!\"\x7d".toUTF8.toList)

theorem filesBelow?_renamedEntities :
    renamedEntities.filesBelow? (.ofText "entities") =
      some [["entities", "A.json"], ["entities", "B.json"], ["entities", "sub", "A.json"]] := by
  have hpaths : ((renamedEntities.entries.map Prod.fst).filter fun p =>
      (Path.ofText "entities").isPrefixOf p && renamedEntities.isFile p) =
      [["entities", "A.json"], ["entities", "B.json"], ["entities", "sub", "A.json"]] := by
    decide +kernel
  have hentry : renamedEntities.entry? (.ofText "entities") = some .directory := by decide +kernel
  simp only [FileTree.filesBelow?, hentry, hpaths]
  rw [List.mergeSort_of_pairwise (by decide +kernel)]

/-- A stem takes over the key of a name, so that the key leads to another entity. The name itself
leads to the later definition. -/
theorem tells_renamedEntities :
    ∃ r, load renamedEntities "entities" = .ok r ∧ (r.find? "A").map Entity.name = some "C" ∧
      (r.find? " A! ").map Entity.displayName = some "later" ∧
      (∃ history, IsAfter history r) ∧ ∀ history, IsAfter history r → Tells history r := by
  have hload := load_eq_ok_iff.mpr
    ⟨_, listDescriptors_eq_ok_iff.mpr ⟨_, filesBelow?_renamedEntities, rfl⟩, rfl⟩
  exact ⟨_, hload, by decide +kernel, by decide +kernel, tells_of_isMade (.load hload)⟩

end EntityRegistry

end Blocklist
