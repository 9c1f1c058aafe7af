import Blocklist.Corpus.Report
import Blocklist.Proofs.FileTree

/-! # Loading descriptor files

What a load takes from the files at or below a path: the records in the valid files, in the order of
their paths, and a report of the others. -/

namespace Blocklist

open FileTree (IsFileBelow)

variable {α : Type u} {read : Path → Except SkipReason α} {files : List Path}

/-! ## Valid records -/

/-- The records in those of some files that can be used. -/
def validRecords (read : Path → Except SkipReason α) (files : List Path) : List (Path × α) :=
  files.filterMap fun file => (read file).toOption.map (file, ·)

theorem mem_validRecords_iff {file : Path} {x : α} :
    (file, x) ∈ validRecords read files ↔ file ∈ files ∧ read file = .ok x := by
  simp only [validRecords, List.mem_filterMap, Option.map_eq_some_iff, Prod.mk.injEq]
  constructor
  · intro h
    obtain ⟨file', hmem, y, hy, rfl, rfl⟩ := h
    cases hread : read file' with
    | error reason => simp [hread, Except.toOption] at hy
    | ok z =>
      simp only [hread, Except.toOption, Option.some.injEq] at hy
      exact ⟨hmem, by rw [hy]⟩
  · intro h
    exact ⟨file, h.1, x, by rw [h.2]; rfl, rfl, rfl⟩

theorem map_snd_validRecords :
    (validRecords read files).map Prod.snd = files.filterMap fun file => (read file).toOption := by
  rw [validRecords, List.map_filterMap]
  apply List.filterMap_congr
  intro file _
  cases (read file).toOption <;> rfl

theorem inPathOrder_validRecords (h : files.Pairwise Path.precedes) :
    InPathOrder (validRecords read files) := by
  apply List.Pairwise.filterMap _ _ h
  intro p q hpq x hx y hy
  obtain ⟨_, -, rfl⟩ := Option.map_eq_some_iff.mp hx
  obtain ⟨_, -, rfl⟩ := Option.map_eq_some_iff.mp hy
  exact hpq

/-! ## Reports -/

/-- A report lists exactly the considered files that cannot be used, each with its reason and in the
order of their paths. -/
structure LoadReport.IsReportOf (report : LoadReport) (considered : Path → Prop)
    (read : Path → Except SkipReason α) : Prop where
  mem_skipped : ∀ s, s ∈ report.skipped ↔ considered s.path ∧ read s.path = .error s.reason
  order : report.skipped.Pairwise fun s s' => Path.precedes s.path s'.path

theorem LoadReport.loaded_ofResults :
    (LoadReport.ofResults (files.map fun file => (file, read file))).loaded =
      (validRecords read files).length := by
  induction files with
  | nil => rfl
  | cons file files ih =>
    simp only [ofResults, validRecords] at ih ⊢
    cases hread : read file with
    | error reason => simpa [hread, Except.toOption] using ih
    | ok x => simpa [hread, Except.toOption] using ih

/-- What a report lists about a file. -/
def SkippedFile.ofResult? (file : Path) (result : Except SkipReason α) : Option SkippedFile :=
  match result with
  | .ok _ => none
  | .error reason => some ⟨file, reason⟩

theorem SkippedFile.ofResult?_eq_some_iff {file : Path} {result : Except SkipReason α}
    {s : SkippedFile} :
    SkippedFile.ofResult? file result = some s ↔ file = s.path ∧ result = .error s.reason := by
  cases result with
  | ok x => simp [ofResult?]
  | error reason =>
    cases s
    simp [ofResult?]

theorem LoadReport.isReportOf_ofResults (h : files.Pairwise Path.precedes) :
    (LoadReport.ofResults (files.map fun file => (file, read file))).IsReportOf
      (· ∈ files) read := by
  have hskipped : (LoadReport.ofResults (files.map fun file => (file, read file))).skipped =
      files.filterMap fun file => SkippedFile.ofResult? file (read file) := by
    simp only [ofResults, List.filterMap_map]
    rfl
  constructor
  · intro s
    rw [hskipped, List.mem_filterMap]
    constructor
    · intro hs
      obtain ⟨file, hfile, hs⟩ := hs
      obtain ⟨rfl, hread⟩ := SkippedFile.ofResult?_eq_some_iff.mp hs
      exact ⟨hfile, hread⟩
    · intro hs
      exact ⟨s.path, hs.1, SkippedFile.ofResult?_eq_some_iff.mpr ⟨rfl, hs.2⟩⟩
  · rw [hskipped]
    apply List.Pairwise.filterMap _ _ h
    intro p q hpq s hs s' hs'
    rw [← (SkippedFile.ofResult?_eq_some_iff.mp hs).1,
      ← (SkippedFile.ofResult?_eq_some_iff.mp hs').1]
    exact hpq

/-! ## Descriptor files -/

theorem listDescriptors_eq_ok_iff {t : FileTree} {path : String} {wanted : Path → Bool} :
    listDescriptors t path wanted = .ok files ↔
      ∃ below, t.filesBelow? (.ofText path) = some below ∧ files = below.filter wanted := by
  unfold listDescriptors
  cases t.filesBelow? (.ofText path) with
  | none => simp
  | some below => simp [eq_comm]

theorem mem_of_listDescriptors {t : FileTree} {path : String} {wanted : Path → Bool}
    (h : listDescriptors t path wanted = .ok files) {file : Path} :
    file ∈ files ↔ IsFileBelow t (.ofText path) file ∧ wanted file := by
  obtain ⟨below, hbelow, rfl⟩ := listDescriptors_eq_ok_iff.mp h
  rw [List.mem_filter, FileTree.mem_filesBelow?_iff hbelow]

theorem pairwise_of_listDescriptors {t : FileTree} {path : String} {wanted : Path → Bool}
    (h : listDescriptors t path wanted = .ok files) : files.Pairwise Path.precedes := by
  obtain ⟨below, hbelow, rfl⟩ := listDescriptors_eq_ok_iff.mp h
  exact (FileTree.pairwise_filesBelow? hbelow).filter wanted

/-! ## The record that counts -/

/-- The record with a key that stands in the last file among the valid ones with that key. -/
structure IsLastFor (valid : Path → α → Prop) (key : α → String) (k : String) (file : Path)
    (x : α) : Prop where
  isValid : valid file x
  hasKey : key x = k
  comesLast : ∀ file' y, valid file' y → key y = k → Path.comesFirst file' file

theorem InPathOrder.isLastFor_iff {xs : List (Path × α)} (hxs : InPathOrder xs)
    {valid : Path → α → Prop} (hvalid : ∀ file x, (file, x) ∈ xs ↔ valid file x) {key : α → String}
    {k : String} {file : Path} {x : α} :
    (xs.filter fun y => key y.2 = k).getLast? = some (file, x) ↔ IsLastFor valid key k file x := by
  rw [hxs.getLast?_filter_eq_some_iff, hvalid]
  simp only [Prod.forall, hvalid, decide_eq_true_eq]
  constructor
  · intro h
    exact ⟨h.1, h.2.1, fun file' y => h.2.2 file' y⟩
  · intro h
    exact ⟨h.isValid, h.hasKey, fun file' y => h.comesLast file' y⟩

/-- If there is a valid file for a key, one of them is the last. -/
theorem InPathOrder.exists_isLastFor {xs : List (Path × α)} (hxs : InPathOrder xs)
    {valid : Path → α → Prop} (hvalid : ∀ file x, (file, x) ∈ xs ↔ valid file x) (key : α → String)
    {file : Path} {x : α} (h : valid file x) : ∃ file' y, IsLastFor valid key (key x) file' y := by
  have hmem : (file, x) ∈ xs.filter fun y => key y.2 = key x := by simp [hvalid, h]
  cases hlast : (xs.filter fun y => key y.2 = key x).getLast? with
  | none => simp [List.getLast?_eq_none_iff.mp hlast] at hmem
  | some y => exact ⟨y.1, y.2, (hxs.isLastFor_iff hvalid).mp hlast⟩

end Blocklist
