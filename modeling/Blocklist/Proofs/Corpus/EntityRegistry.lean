import Blocklist.Corpus.EntityRegistry
import Blocklist.Proofs.Corpus.Report
import Blocklist.Proofs.Entity

/-! # The registry of entities

The entities of a registry are in normal form and stand under their names. An entity that is found
for an owner, by its name or by its key, is found by its name again. -/

namespace Blocklist.EntityRegistry

open Text

/-- A registry of entities in normal form, each one under its name. -/
structure IsSound (r : EntityRegistry) : Prop where
  name : ∀ n e, r.entities.get? n = some e → e.name = n
  normal : ∀ n e, r.entities.get? n = some e → e.IsNormal

theorem isSound_empty : empty.IsSound where
  name := fun _ _ h => by cases h
  normal := fun _ _ h => by cases h

theorem IsSound.congr {r s : EntityRegistry} (h : r.IsSound) (heq : s.entities = r.entities) :
    s.IsSound := by
  rcases s with ⟨_, _, _⟩
  subst heq
  exact ⟨h.name, h.normal⟩

theorem IsSound.insert {r : EntityRegistry} {e : Entity} (h : r.IsSound) (he : e.IsNormal) :
    (r.insert e).IsSound := by
  have hget : ∀ n f, (r.insert e).entities.get? n = some f →
      n = e.name ∧ f = e ∨ r.entities.get? n = some f := by
    intro n f hf
    rw [EntityRegistry.insert, TextMap.get?_insert] at hf
    by_cases hn : n = e.name
    · rw [if_pos hn] at hf
      exact .inl ⟨hn, (Option.some.inj hf).symm⟩
    · rw [if_neg hn] at hf
      exact .inr hf
  constructor
  · intro n f hf
    obtain ⟨rfl, rfl⟩ | hf := hget n f hf
    · rfl
    · exact h.name n f hf
  · intro n f hf
    obtain ⟨rfl, rfl⟩ | hf := hget n f hf
    · exact he
    · exact h.normal n f hf

theorem IsSound.insertFile {r : EntityRegistry} {e : Entity} (h : r.IsSound) (he : e.IsNormal)
    (file : Path) : (r.insertFile file e).IsSound :=
  (h.insert he).congr rfl

/-- A registry of entities in memory is sound. -/
theorem isSound_ofEntities (es : List Entity) : (ofEntities es).IsSound := by
  have hall : ∀ e ∈ es.filterMap Entity.normalize?, e.IsNormal := by
    intro e he
    obtain ⟨e', -, he'⟩ := List.mem_filterMap.mp he
    exact Entity.isNormal_of_normalize? he'
  have hfold : ((es.filterMap Entity.normalize?).foldl EntityRegistry.insert empty).IsSound :=
    List.foldlRecOn _ _ isSound_empty fun r hr e he => hr.insert (hall e he)
  exact hfold.congr rfl

theorem isNormal_of_readFile {t : FileTree} {p : Path} {e : Entity} (h : readFile t p = .ok e) :
    e.IsNormal := by
  unfold readFile at h
  obtain ⟨e', -, h⟩ := bind_eq_ok_iff.mp h
  split at h
  · rename_i f hnormal
    exact Except.ok.inj h ▸ Entity.isNormal_of_normalize? hnormal
  · cases h

/-! ## Registries of files -/

/-- The registry of the entities in some files, with the names of the files as further keys. -/
def ofRecords (xs : List (Path × Entity)) : EntityRegistry :=
  xs.foldl (fun r (file, e) => r.insertFile file e) empty

theorem isSound_ofRecords {xs : List (Path × Entity)} (hxs : ∀ x ∈ xs, x.2.IsNormal) :
    (ofRecords xs).IsSound :=
  List.foldlRecOn xs _ isSound_empty fun _ hr x hx => hr.insertFile (hxs x hx) x.1

theorem entities_ofRecords (xs : List (Path × Entity)) :
    (ofRecords xs).entities = .ofList (xs.map fun x => (x.2.name, x.2)) := by
  rw [TextMap.ofList, List.foldl_map]
  exact (List.foldl_hom EntityRegistry.entities fun _ _ => rfl).symm

theorem load_eq_ok_iff {t : FileTree} {path : String} {r : EntityRegistry} :
    load t path = .ok r ↔
      ∃ files, listDescriptors t path (Path.hasExtension "json") = .ok files ∧
        r = { ofRecords (validRecords (readFile t) files) with
          report := .ofResults (files.map fun file => (file, readFile t file)) } := by
  have hfold : ∀ files : List Path, ofRecords (validRecords (readFile t) files) =
      (files.map fun file => (file, readFile t file)).foldl
        (fun r x => x.2.toOption.elim r (r.insertFile x.1)) empty := by
    intro files
    rw [ofRecords, validRecords, List.foldl_filterMap, List.foldl_map]
    refine List.foldl_ext _ _ _ fun r file _ => ?_
    cases readFile t file <;> rfl
  rw [load, bind_eq_ok_iff]
  refine exists_congr fun files => and_congr_right fun _ => ?_
  rw [hfold]
  exact ⟨fun h => (Except.ok.inj h).symm, fun h => congrArg Except.ok h.symm⟩

/-- A file that an entity of a registry may come from. -/
structure IsValidFile (t : FileTree) (path : String) (file : Path) (e : Entity) : Prop where
  below : t.IsFileBelow (.ofText path) file
  extension : file.hasExtension "json"
  read : readFile t file = .ok e

/-- A registry as it is loaded from the valid files, in the order of their paths. -/
structure IsLoadedFrom (t : FileTree) (path : String) (xs : List (Path × Entity))
    (r : EntityRegistry) : Prop where
  order : InPathOrder xs
  mem_iff : ∀ file e, (file, e) ∈ xs ↔ IsValidFile t path file e
  entities : r.entities = (ofRecords xs).entities
  names : r.names = (ofRecords xs).names
  loaded : r.report.loaded = xs.length
  isReportOf : r.report.IsReportOf
    (fun file => t.IsFileBelow (.ofText path) file ∧ file.hasExtension "json") (readFile t)

theorem exists_isLoadedFrom_of_load {t : FileTree} {path : String} {r : EntityRegistry}
    (h : load t path = .ok r) : ∃ xs, IsLoadedFrom t path xs r := by
  obtain ⟨files, hfiles, rfl⟩ := load_eq_ok_iff.mp h
  have hpairwise := pairwise_of_listDescriptors hfiles
  refine ⟨_, inPathOrder_validRecords hpairwise, ?_, rfl, rfl, LoadReport.loaded_ofResults, ?_⟩
  · intro file e
    rw [mem_validRecords_iff, mem_of_listDescriptors hfiles]
    exact ⟨fun h => ⟨h.1.1, h.1.2, h.2⟩, fun h => ⟨⟨h.below, h.extension⟩, h.read⟩⟩
  · have hreport := @LoadReport.isReportOf_ofResults _ (readFile t) files hpairwise
    simpa only [mem_of_listDescriptors hfiles] using hreport

/-- The entity for a name comes from the last valid file with that name. -/
theorem IsLoadedFrom.get?_entities_eq_some_iff {t : FileTree} {path : String}
    {xs : List (Path × Entity)} {r : EntityRegistry} (h : IsLoadedFrom t path xs r) {n : String}
    {e : Entity} :
    r.entities.get? n = some e ↔
      ∃ file, IsLastFor (IsValidFile t path) Entity.name n file e := by
  have hget : r.entities.get? n = ((xs.filter fun x => x.2.name = n).getLast?).map Prod.snd := by
    rw [h.entities, entities_ofRecords, TextMap.get?_ofList, List.filter_map, List.getLast?_map,
      Option.map_map]
    simp [Function.comp_def, eq_comm]
  simp only [hget, Option.map_eq_some_iff, Prod.exists, exists_eq_right,
    h.order.isLastFor_iff h.mem_iff]

/-- A registry that is loaded from files is sound. -/
theorem isSound_of_load {t : FileTree} {path : String} {r : EntityRegistry}
    (h : load t path = .ok r) : r.IsSound := by
  obtain ⟨xs, hxs⟩ := exists_isLoadedFrom_of_load h
  refine IsSound.congr (isSound_ofRecords ?_) hxs.entities
  intro x hx
  exact isNormal_of_readFile ((hxs.mem_iff x.1 x.2).mp hx).read

/-- How a registry is made: of entities in memory, or of files. -/
inductive IsMade : EntityRegistry → Prop where
  | ofEntities (es : List Entity) : IsMade (ofEntities es)
  | load {t : FileTree} {path : String} {r : EntityRegistry} (h : load t path = .ok r) : IsMade r

theorem IsMade.isSound {r : EntityRegistry} (h : r.IsMade) : r.IsSound := by
  cases h with
  | ofEntities es => exact isSound_ofEntities es
  | load h => exact isSound_of_load h

/-! ## Look-ups -/

variable {r : EntityRegistry} {owner : String} {e : Entity}

/-- Owners are looked up in the entities and names of a registry alone. -/
theorem find?_congr {r s : EntityRegistry} (hentities : r.entities = s.entities)
    (hnames : r.names = s.names) : r.find? = s.find? := by
  funext owner
  rw [find?, find?, hentities, hnames]

/-- Blanks around the name of an owner do not matter. -/
theorem find?_trim (r : EntityRegistry) (owner : String) :
    r.find? (trim owner) = r.find? owner := by
  rw [find?, find?, trim_trim]

theorem exists_get?_of_find? (h : r.find? owner = some e) : ∃ n, r.entities.get? n = some e := by
  rw [find?] at h
  cases hname : r.entities.get? (trim owner) with
  | some f =>
    rw [hname] at h
    exact ⟨_, hname.trans h⟩
  | none =>
    rw [hname] at h
    obtain ⟨n, -, hn⟩ := Option.bind_eq_some_iff.mp h
    exact ⟨n, hn⟩

theorem IsSound.get?_name (hr : r.IsSound) (h : r.find? owner = some e) :
    r.entities.get? e.name = some e := by
  obtain ⟨n, hn⟩ := exists_get?_of_find? h
  rw [hr.name n e hn]
  exact hn

theorem IsSound.find?_of_get? (hr : r.IsSound) (h : r.entities.get? owner = some e) :
    r.find? owner = some e := by
  have htrim : trim owner = owner := by
    have hname := (hr.normal owner e h).name.1
    rwa [hr.name owner e h] at hname
  rw [find?, htrim, h]
  rfl

end Blocklist.EntityRegistry
