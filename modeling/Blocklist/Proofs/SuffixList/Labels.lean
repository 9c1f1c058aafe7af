import Blocklist.Proofs.Host.NormalForm
import Blocklist.Proofs.SuffixList.Registrable

/-! # The walk over the labels of a host

With a table of suffixes of two labels the domains that are looked up for a host are the host itself
and what two or more of its last labels make up. It does not matter what the table holds: below a
registrable domain of three labels the walk goes on to the last two. Main statement:
`mem_walk_heuristic_iff`. -/

namespace Blocklist

/-- Whether a domain is a host or made of two or more of its last labels. -/
def Host.IsEndOf (d host : String) : Prop :=
  d = host ∨ labels d <:+ labels host ∧ 2 ≤ (labels d).length

instance (d host : String) : Decidable (Host.IsEndOf d host) :=
  inferInstanceAs (Decidable (_ ∨ _))

namespace SuffixList

open Text Host

/-- The domains that a host belongs to, with any table of suffixes of two labels. -/
def walkIn (table : List String) (host : String) : List String :=
  let chars := host.toList
  let least := leastLengthFor (registrableIn table (dropEndWhile (· == '.') chars)) chars
  (if chars.isEmpty then []
    else (chars :: parents chars).takeWhile fun d => least ≤ utf8Length d).map String.ofList

theorem walk_heuristic_eq (host : String) : heuristic.walk host = walkIn commonSuffixes host := by
  simp only [walk, walkChars, walkIn, leastLength_eq, registrableChars.eq_def,
    registrableByTable_eq]

/-- What the table holds does not matter. -/
theorem walkIn_eq_walk_heuristic (table : List String) {host : String}
    (h : host.toList.getLast? ≠ some '.') : walkIn table host = heuristic.walk host := by
  rw [walk_heuristic_eq]
  simp only [walkIn, dropEndWhile_beq_eq_self h, leastLengthFor_registrableIn]

variable {d host : String}

theorem covers_of_isEndOf (h : IsEndOf d host) : covers d host := by
  cases h with
  | inl heq => exact heq ▸ covers_refl d
  | inr hlabels => exact covers_iff_labels.mpr hlabels.1

theorem ne_empty_of_covers_of_isNormal (h : IsNormal host.toList) (hcovers : covers d host) :
    d ≠ "" := by
  rintro rfl
  rcases covers_iff.mp hcovers with rfl | ⟨init, heq⟩
  · exact ne_nil_of_isValid h.valid rfl
  · exact h.last (by rw [← heq]; simp)

/-- Which of the domains that cover a host are looked up is a matter of their labels. -/
theorem mem_walk_iff_length_labels (list : SuffixList) (h : IsNormal host.toList) :
    d ∈ list.walk host ↔ covers d host ∧
      leastSize (min (list.siteSize host.toList) (labels host).length) ≤ (labels d).length := by
  have hsize := two_le_siteSize list host.toList
  have hpos := List.length_pos_of_ne_nil (parts_ne_nil '.' host.toList)
  have hleast : leastSize (min (list.siteSize host.toList) (labels host).length) ≠ 0 ∧
      leastSize (min (list.siteSize host.toList) (labels host).length) ≤ (labels host).length := by
    rw [length_labels]
    unfold leastSize
    split <;> omega
  rw [length_labels] at hleast
  rw [mem_walk_iff, leastLength_eq_lastLabels list h.last, length_labels, length_labels]
  constructor
  · rintro ⟨-, hcovers, hle⟩
    exact ⟨hcovers, (utf8Length_lastLabels_le_iff hleast.1 hleast.2 hcovers).mp hle⟩
  · rintro ⟨hcovers, hle⟩
    exact ⟨ne_empty_of_covers_of_isNormal h hcovers, hcovers,
      (utf8Length_lastLabels_le_iff hleast.1 hleast.2 hcovers).mpr hle⟩

/-- The domains that are looked up for a host are the host and what its last labels make up, two or
more of them. -/
theorem mem_walk_heuristic_iff (h : IsNormal host.toList) :
    d ∈ heuristic.walk host ↔ IsEndOf d host := by
  have hsize := siteSize_heuristic host.toList
  rw [mem_walk_iff_length_labels heuristic h, IsEndOf, ← covers_iff_labels]
  unfold leastSize
  constructor
  · rintro ⟨hcovers, hle⟩
    by_cases heq : d = host
    · exact .inl heq
    · have hlt := length_labels_lt_of_covers hcovers heq
      refine .inr ⟨hcovers, ?_⟩
      split at hle <;> omega
  · rintro (rfl | ⟨hcovers, htwo⟩)
    · refine ⟨covers_refl d, ?_⟩
      split <;> omega
    · refine ⟨hcovers, ?_⟩
      split <;> omega

/-- Each of these domains is looked up once, those with more labels first. -/
theorem pairwise_labels_walk (list : SuffixList) (host : String) :
    (list.walk host).Pairwise fun d e => (labels e).length < (labels d).length := by
  refine (pairwise_walk list host).imp_of_mem fun {d e} hd he hlt => ?_
  have hcovers := covers_of_utf8Length_le (covers_of_mem_walk he) (covers_of_mem_walk hd)
    (Nat.le_of_lt hlt)
  refine length_labels_lt_of_covers hcovers ?_
  rintro rfl
  exact Nat.lt_irrefl _ hlt

/-- What is found for a host is what is found for the longest of these domains for which there is
anything. -/
theorem findSome?_walk_heuristic_iff {α : Type u} {f : String → Option α} {a : α}
    (h : IsNormal host.toList) :
    (heuristic.walk host).findSome? f = some a ↔
      ∃ d, f d = some a ∧ IsEndOf d host ∧
        ∀ e, (f e).isSome → IsEndOf e host → e ≠ d → e.length < d.length := by
  constructor
  · intro hfound
    obtain ⟨d, hd, ha, hlongest⟩ := exists_of_findSome?_walk hfound
    refine ⟨d, ha, (mem_walk_heuristic_iff h).mp hd, fun e hsome he hne => ?_⟩
    exact length_lt_of_covers (hlongest e (covers_of_isEndOf he) hsome) hne
  · rintro ⟨d, ha, hd, hlongest⟩
    refine findSome?_walk_eq_some ((mem_walk_heuristic_iff h).mpr hd) ha fun e he hsome => ?_
    have hend := (mem_walk_heuristic_iff h).mp he
    rcases covers_or_covers (covers_of_isEndOf hend) (covers_of_isEndOf hd) with hcovers | hcovers
    · exact hcovers
    · by_cases hne : e = d
      · exact hne ▸ covers_refl e
      · have hlt := hlongest e hsome hend hne
        have hlt' := length_lt_of_covers hcovers (Ne.symm hne)
        omega

theorem findSome?_walk_heuristic_eq_none_iff {α : Type u} {f : String → Option α}
    (h : IsNormal host.toList) :
    (heuristic.walk host).findSome? f = none ↔ ∀ d, IsEndOf d host → f d = none := by
  simp only [List.findSome?_eq_none_iff, mem_walk_heuristic_iff h]

end SuffixList

end Blocklist
