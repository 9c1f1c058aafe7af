import Blocklist.FileTree
import Blocklist.Proofs.Except
import Blocklist.Proofs.Text.Utf8
import Mathlib.Data.List.Basic
import Mathlib.Data.List.Nodup

/-! # Files in a tree

The files at or below a path are all those that there are, each one once, in the order of their
paths. A list of files in this order is determined by its members, and the greatest path is the last
one. A text that has been written to a file is read from it. -/

namespace Blocklist

namespace Path

/-! ## The order of paths -/

theorem comesFirst_refl (p : Path) : comesFirst p p := by
  induction p with
  | nil => rfl
  | cons a p ih => simp [comesFirst, ih]

theorem comesFirst_total (p q : Path) : comesFirst p q ∨ comesFirst q p := by
  induction p generalizing q with
  | nil => exact .inl rfl
  | cons a p ih =>
    cases q with
    | nil => exact .inr rfl
    | cons b q =>
      simp only [comesFirst, Bool.or_eq_true, Bool.and_eq_true, decide_eq_true_eq, beq_iff_eq]
      by_cases hab : a < b
      · exact .inl (.inl hab)
      by_cases hba : b < a
      · exact .inr (.inl hba)
      obtain rfl : a = b := String.le_antisymm (String.not_lt.mp hba) (String.not_lt.mp hab)
      simpa using ih q

theorem comesFirst_trans {p q r : Path} (hpq : comesFirst p q) (hqr : comesFirst q r) :
    comesFirst p r := by
  induction p generalizing q r with
  | nil => rfl
  | cons a p ih =>
    cases q with
    | nil => cases hpq
    | cons b q =>
      cases r with
      | nil => cases hqr
      | cons c r =>
        simp only [comesFirst, Bool.or_eq_true, Bool.and_eq_true, decide_eq_true_eq,
          beq_iff_eq] at hpq hqr ⊢
        cases hpq with
        | inl hab =>
          cases hqr with
          | inl hbc => exact .inl (String.lt_trans hab hbc)
          | inr hbc => exact .inl (hbc.1 ▸ hab)
        | inr hab =>
          cases hqr with
          | inl hbc => exact .inl (hab.1 ▸ hbc)
          | inr hbc => exact .inr ⟨hab.1.trans hbc.1, ih hab.2 hbc.2⟩

theorem comesFirst_antisymm {p q : Path} (hpq : comesFirst p q) (hqp : comesFirst q p) : p = q := by
  induction p generalizing q with
  | nil =>
    cases q with
    | nil => rfl
    | cons b q => cases hqp
  | cons a p ih =>
    cases q with
    | nil => cases hpq
    | cons b q =>
      simp only [comesFirst, Bool.or_eq_true, Bool.and_eq_true, decide_eq_true_eq,
        beq_iff_eq] at hpq hqp
      cases hpq with
      | inl hab =>
        cases hqp with
        | inl hba => exact absurd hba (String.lt_asymm hab)
        | inr hba => exact absurd (hba.1 ▸ hab) (String.lt_irrefl a)
      | inr hab =>
        cases hqp with
        | inl hba => exact absurd (hab.1 ▸ hba) (String.lt_irrefl a)
        | inr hba => rw [hab.1, ih hab.2 hba.2]

/-- Whether a path comes before another one. -/
def precedes (p q : Path) : Prop :=
  comesFirst p q ∧ p ≠ q

theorem precedes_asymm {p q : Path} (hpq : precedes p q) : ¬ precedes q p := by
  intro hqp
  exact hpq.2 (comesFirst_antisymm hpq.1 hqp.1)

end Path

/-! ## Lists in the order of paths -/

/-- Records in the order of the paths of their files, with one for a file. -/
def InPathOrder {α : Type u} (xs : List (Path × α)) : Prop :=
  xs.Pairwise fun x y => Path.precedes x.1 y.1

variable {α : Type u} {xs ys : List (Path × α)}

/-- Records in the order of their files are determined by their members. -/
theorem InPathOrder.eq_of_mem_iff (hxs : InPathOrder xs) (hys : InPathOrder ys)
    (h : ∀ x, x ∈ xs ↔ x ∈ ys) : xs = ys := by
  have hnodup : ∀ {zs : List (Path × α)}, InPathOrder zs → zs.Nodup := by
    intro zs hzs
    apply hzs.imp
    intro x y hxy heq
    exact hxy.2 (congrArg Prod.fst heq)
  have hperm : xs.Perm ys := (List.perm_ext_iff_of_nodup (hnodup hxs) (hnodup hys)).mpr h
  apply hperm.eq_of_pairwise _ hxs hys
  intro x y _ _ hxy hyx
  exact absurd hyx (Path.precedes_asymm hxy)

/-- The last record with a property is that of the greatest path. -/
theorem InPathOrder.getLast?_filter_eq_some_iff (hxs : InPathOrder xs) {p : Path × α → Bool}
    {x : Path × α} :
    (xs.filter p).getLast? = some x ↔
      x ∈ xs ∧ p x ∧ ∀ y ∈ xs, p y → Path.comesFirst y.1 x.1 := by
  have hfilter : InPathOrder (xs.filter p) := hxs.filter p
  have hmem : ∀ y, y ∈ xs ∧ p y ↔ y ∈ xs.filter p := fun y => List.mem_filter.symm
  rw [← and_assoc, hmem]
  have hall : (∀ y ∈ xs, p y → Path.comesFirst y.1 x.1) ↔
      ∀ y ∈ xs.filter p, Path.comesFirst y.1 x.1 := by
    simp only [List.mem_filter, and_imp]
  rw [hall]
  clear hmem hall hxs
  generalize xs.filter p = zs at hfilter
  obtain rfl | ⟨front, last, rfl⟩ := List.eq_nil_or_concat' zs
  · simp
  · have hfront : ∀ y ∈ front, Path.precedes y.1 last.1 := fun y hy =>
      (List.pairwise_append.mp hfilter).2.2 y hy last (List.mem_singleton_self last)
    rw [List.getLast?_concat, Option.some.injEq]
    constructor
    · intro heq
      subst heq
      refine ⟨by simp, ?_⟩
      intro y hy
      cases List.mem_append.mp hy with
      | inl hy => exact (hfront y hy).1
      | inr hy =>
        rw [List.mem_singleton.mp hy]
        exact Path.comesFirst_refl last.1
    · intro h
      cases List.mem_append.mp h.1 with
      | inl hx =>
        have hlast := h.2 last (by simp)
        exact absurd (Path.comesFirst_antisymm (hfront x hx).1 hlast) (hfront x hx).2
      | inr hx => exact (List.mem_singleton.mp hx).symm

namespace FileTree

/-! ## Files -/

/-- A file that stands at a path or, if there is a directory, somewhere below it. -/
structure IsFileBelow (t : FileTree) (dir file : Path) : Prop where
  isFile : t.isFile file
  below : file = dir ∨ t.isDirectory dir ∧ dir <+: file

theorem mem_entries_of_isFile {t : FileTree} {p : Path} (h : t.isFile p) :
    p ∈ t.entries.map Prod.fst := by
  cases p with
  | nil => cases h
  | cons a p =>
    unfold isFile entry? at h
    cases hentry : t.entries.lookup (a :: p) with
    | none => simp [hentry] at h
    | some e =>
      obtain ⟨front, back, heq, -⟩ := List.lookup_eq_some_iff.mp hentry
      simp [heq]

theorem mem_filesBelow?_iff {t : FileTree} {dir : Path} {files : List Path}
    (h : t.filesBelow? dir = some files) {file : Path} :
    file ∈ files ↔ t.IsFileBelow dir file := by
  unfold filesBelow? at h
  split at h
  · cases h
  · rename_i hentry
    obtain rfl := Option.some.inj h
    have hdir : t.isDirectory dir := by simp [isDirectory, hentry]
    rw [List.mem_mergeSort, List.mem_filter, Bool.and_eq_true, List.isPrefixOf_iff_prefix]
    constructor
    · intro hmem
      exact ⟨hmem.2.2, .inr ⟨hdir, hmem.2.1⟩⟩
    · intro hfile
      refine ⟨mem_entries_of_isFile hfile.isFile, ?_, hfile.isFile⟩
      cases hfile.below with
      | inl heq => exact heq ▸ List.prefix_refl file
      | inr hbelow => exact hbelow.2
  · rename_i e hfile hentry
    obtain rfl := Option.some.inj h
    rw [List.mem_singleton]
    constructor
    · rintro rfl
      refine ⟨?_, .inl rfl⟩
      cases e with
      | directory => exact absurd rfl hfile
      | _ => simp [isFile, hentry, FileEntry.isFile]
    · intro hbelow
      refine hbelow.below.resolve_right fun hdir => hfile ?_
      simpa [isDirectory, hentry] using hdir.1

theorem pairwise_filesBelow? {t : FileTree} {dir : Path} {files : List Path}
    (h : t.filesBelow? dir = some files) : files.Pairwise Path.precedes := by
  unfold filesBelow? at h
  split at h
  · cases h
  · obtain rfl := Option.some.inj h
    have hsorted := @List.pairwise_mergeSort Path Path.comesFirst
      (fun p q r => Path.comesFirst_trans) (fun p q => by simpa using Path.comesFirst_total p q)
      ((t.entries.map Prod.fst).filter fun q => dir.isPrefixOf q && t.isFile q)
    have hnodup := (List.mergeSort_perm ((t.entries.map Prod.fst).filter fun q =>
      dir.isPrefixOf q && t.isFile q) Path.comesFirst).nodup_iff.mpr (t.unique.filter _)
    exact hsorted.and hnodup
  · obtain rfl := Option.some.inj h
    exact List.pairwise_singleton _ _

/-! ## Changes -/

/-- Putting an entry at a path changes nothing elsewhere. -/
theorem entry?_put_of_ne (t : FileTree) (e : FileEntry) {p q : Path} (h : q ≠ p) :
    FileTree.entry? (t.put p e) q = t.entry? q := by
  have hlookup : ∀ entries : List (Path × FileEntry),
      (entries.filter (·.1 != p)).lookup q = entries.lookup q := by
    intro entries
    induction entries with
    | nil => rfl
    | cons entry entries ih =>
      by_cases hentry : entry.1 = p
      · have hne : (q == entry.1) = false := by simpa [hentry] using h
        rw [List.filter_cons_of_neg (by simpa using hentry), List.lookup_cons, hne, ih]
      · rw [List.filter_cons_of_pos (by simpa using hentry), List.lookup_cons, List.lookup_cons, ih]
  cases q with
  | nil => rfl
  | cons a q =>
    have hne : (a :: q == p) = false := by simpa using h
    simp [put, entry?, List.lookup_cons, hne, hlookup]

theorem entry?_put_self (t : FileTree) (e : FileEntry) {p : Path} (h : p ≠ []) :
    FileTree.entry? (t.put p e) p = some e := by
  cases p with
  | nil => exact absurd rfl h
  | cons a p => simp [put, entry?]

/-! ## Texts in files -/

theorem writeText_eq_ok {t t' : FileTree} {p : Path} {s : String} (h : t.writeText p s = .ok t') :
    p ≠ [] ∧ t' = t.put p (.file s.toUTF8.toList) := by
  unfold writeText at h
  split at h
  · cases h
  · rename_i hdir
    split_ifs at h
    · obtain rfl := Except.ok.inj h
      refine ⟨?_, rfl⟩
      intro hroot
      subst hroot
      exact hdir rfl

/-- Writing a text changes nothing but the file. -/
theorem entry?_writeText_of_ne {t t' : FileTree} {p q : Path} {s : String}
    (h : t.writeText p s = .ok t') (hq : q ≠ p) : t'.entry? q = t.entry? q := by
  rw [(writeText_eq_ok h).2, entry?_put_of_ne t _ hq]

theorem readBytes_of_writeText {t t' : FileTree} {p : Path} {s : String}
    (h : t.writeText p s = .ok t') : t'.readBytes p = .ok s.toUTF8.toList := by
  obtain ⟨hroot, rfl⟩ := writeText_eq_ok h
  rw [readBytes, entry?_put_self t _ hroot]

/-- A text that has been written to a file is read from it. -/
theorem readText_of_writeText {t t' : FileTree} {p : Path} {s : String}
    (h : t.writeText p s = .ok t') : t'.readText p = .ok s := by
  rw [readText, readBytes_of_writeText h]
  simp only [bind, Except.bind, ofBytes?_toUTF8]
  rfl

/-- The bytes that are read depend only on what is at the path. -/
theorem toOption_readBytes_congr {t t' : FileTree} {p : Path} (h : t.entry? p = t'.entry? p) :
    (t.readBytes p).toOption = (t'.readBytes p).toOption := by
  unfold readBytes
  rw [h]
  split <;> rfl

end FileTree

end Blocklist
