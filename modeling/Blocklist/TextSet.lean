/-!
Finite sets of texts, listed in ascending order. Main statement: `mem_insert`.
-/

namespace Blocklist

/-- A finite set of texts, listed in ascending order. -/
structure TextSet where
  /-- The members, in ascending order. -/
  toList : List String
  ascending : toList.Pairwise (· < ·)
deriving DecidableEq

namespace TextSet

/-- Puts a text at its place in an ascending list, unless it is there. -/
def insertMember (s : String) : List String → List String
  | [] => [s]
  | t :: ts => if s < t then s :: t :: ts else if s = t then t :: ts else t :: insertMember s ts

theorem mem_insertMember {s t : String} {ts : List String} :
    t ∈ insertMember s ts ↔ t = s ∨ t ∈ ts := by
  induction ts with
  | nil => simp [insertMember]
  | cons u ts ih =>
    unfold insertMember
    split
    · simp
    · split
      · rename_i h
        subst h
        simp
      · rw [List.mem_cons, ih, List.mem_cons]
        exact ⟨fun h => h.elim (.inr ∘ .inl) (Or.imp_right .inr),
          fun h => h.elim (.inr ∘ .inl) (Or.imp_right .inr)⟩

theorem pairwise_insertMember (s : String) {ts : List String} (h : ts.Pairwise (· < ·)) :
    (insertMember s ts).Pairwise (· < ·) := by
  induction ts with
  | nil => simp [insertMember]
  | cons t ts ih =>
    obtain ⟨hhead, htail⟩ := List.pairwise_cons.1 h
    unfold insertMember
    split
    · rename_i hs
      refine List.pairwise_cons.2 ⟨fun u hu => ?_, h⟩
      rcases List.mem_cons.1 hu with rfl | hu
      · exact hs
      · exact String.lt_trans hs (hhead u hu)
    · split
      · exact h
      · rename_i hlt hne
        refine List.pairwise_cons.2 ⟨fun u hu => ?_, ih htail⟩
        rcases mem_insertMember.1 hu with rfl | hu
        · exact Decidable.byContradiction fun hn =>
            hne (String.le_antisymm (String.not_lt.1 hn) (String.not_lt.1 hlt))
        · exact hhead u hu

def empty : TextSet := ⟨[], .nil⟩

instance : Inhabited TextSet := ⟨empty⟩

instance : Membership String TextSet := ⟨fun s t => t ∈ s.toList⟩

instance (s : TextSet) (t : String) : Decidable (t ∈ s) :=
  inferInstanceAs (Decidable (t ∈ s.toList))

def contains (s : TextSet) (t : String) : Bool := s.toList.contains t

def insert (s : TextSet) (t : String) : TextSet :=
  ⟨insertMember t s.toList, pairwise_insertMember t s.ascending⟩

def erase (s : TextSet) (t : String) : TextSet :=
  ⟨s.toList.filter (· ≠ t), s.ascending.filter _⟩

def ofList (ts : List String) : TextSet :=
  ts.foldl insert empty

def isEmpty (s : TextSet) : Bool := s.toList.isEmpty

theorem mem_def {s : TextSet} {t : String} : t ∈ s ↔ t ∈ s.toList := Iff.rfl

theorem contains_iff {s : TextSet} {t : String} : s.contains t ↔ t ∈ s := by
  simp [contains, mem_def]

@[simp] theorem not_mem_empty (t : String) : t ∉ empty := List.not_mem_nil

theorem mem_insert {s : TextSet} {t u : String} : u ∈ s.insert t ↔ u = t ∨ u ∈ s :=
  mem_insertMember

theorem mem_erase {s : TextSet} {t u : String} : u ∈ s.erase t ↔ u ∈ s ∧ u ≠ t := by
  simp [erase, mem_def]

theorem mem_ofList {ts : List String} {t : String} : t ∈ ofList ts ↔ t ∈ ts := by
  have h : ∀ (ts : List String) (s : TextSet), t ∈ ts.foldl insert s ↔ t ∈ s ∨ t ∈ ts := by
    intro ts
    induction ts with
    | nil => simp
    | cons u ts ih =>
      intro s
      rw [List.foldl_cons, ih, mem_insert, List.mem_cons]
      exact ⟨fun h => h.elim (fun h => h.elim (.inr ∘ .inl) .inl) (.inr ∘ .inr),
        fun h => h.elim (.inl ∘ .inr) (fun h => h.elim (.inl ∘ .inl) .inr)⟩
  simpa [ofList] using h ts empty

end TextSet

end Blocklist
