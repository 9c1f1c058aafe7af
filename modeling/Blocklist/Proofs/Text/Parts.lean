import Blocklist.Text.Parts

/-! # Cutting at separators

The first occurrence of a separator is where a text is cut, and there is one part more than there
are separators. -/

namespace Blocklist.Text

theorem cut?_append {sep : Char} {p : List Char} (h : sep ∉ p) (cs : List Char) :
    cut? sep (p ++ sep :: cs) = some (p, cs) := by
  induction p with
  | nil => simp [cut?]
  | cons c p ih =>
    rw [List.mem_cons, not_or] at h
    obtain ⟨hc, hp⟩ := h
    simp [cut?, Ne.symm hc, ih hp]

theorem cut?_of_not_mem {sep : Char} {cs : List Char} (h : sep ∉ cs) : cut? sep cs = none := by
  induction cs with
  | nil => rfl
  | cons c cs ih =>
    rw [List.mem_cons, not_or] at h
    simp [cut?, Ne.symm h.1, ih h.2]

theorem eq_append_of_cut? {sep : Char} {cs p q : List Char} (h : cut? sep cs = some (p, q)) :
    cs = p ++ sep :: q := by
  induction cs generalizing p with
  | nil => cases h
  | cons c cs ih =>
    unfold cut? at h
    split at h
    · rename_i hc
      obtain ⟨rfl, rfl⟩ := Prod.mk.inj (Option.some.inj h)
      rw [hc, List.nil_append]
    · obtain ⟨⟨before, after⟩, hcut, heq⟩ := Option.map_eq_some_iff.mp h
      obtain ⟨rfl, rfl⟩ := Prod.mk.inj heq
      rw [ih hcut, List.cons_append]

/-- A text is cut at the first occurrence of a separator in one way. -/
theorem append_cons_inj {sep : Char} {p q x y : List Char} (hp : sep ∉ p) (hq : sep ∉ q)
    (h : p ++ sep :: x = q ++ sep :: y) : p = q ∧ x = y := by
  have hcut := cut?_append hp x
  rw [h, cut?_append hq y] at hcut
  obtain ⟨rfl, rfl⟩ := Prod.mk.inj (Option.some.inj hcut)
  exact ⟨rfl, rfl⟩

theorem length_parts (sep : Char) (cs : List Char) : (parts sep cs).length = cs.count sep + 1 := by
  induction cs with
  | nil => rfl
  | cons c cs ih =>
    unfold parts
    split
    · rename_i hc
      rw [hc, List.length_cons, ih, List.count_cons_self]
    · rename_i hc
      rw [List.count_cons_of_ne hc]
      cases hparts : parts sep cs with
      | nil => exact absurd hparts (parts_ne_nil sep cs)
      | cons p ps => rw [← ih, hparts]; rfl

theorem not_mem_of_mem_parts {sep : Char} {p cs : List Char} (h : p ∈ parts sep cs) : sep ∉ p := by
  induction cs generalizing p with
  | nil => simp_all [parts]
  | cons c cs ih =>
    unfold parts at h
    split at h
    · rcases List.mem_cons.mp h with rfl | h
      · exact List.not_mem_nil
      · exact ih h
    · rename_i hc
      cases hparts : parts sep cs with
      | nil => exact absurd hparts (parts_ne_nil sep cs)
      | cons q qs =>
        rw [hparts] at h ih
        rcases List.mem_cons.mp h with rfl | h
        · simpa [Ne.symm hc] using ih List.mem_cons_self
        · exact ih (List.mem_cons_of_mem q h)

theorem parts_append_cons (sep : Char) (xs ys : List Char) :
    parts sep (xs ++ sep :: ys) = parts sep xs ++ parts sep ys := by
  induction xs with
  | nil => simp [parts]
  | cons c cs ih =>
    rw [List.cons_append, parts, ih, parts]
    split
    · rfl
    · cases hparts : parts sep cs with
      | nil => exact absurd hparts (parts_ne_nil sep cs)
      | cons p ps => rfl

theorem joined_append (sep : Char) {ps qs : List (List Char)} (hps : ps ≠ []) (hqs : qs ≠ []) :
    joined sep (ps ++ qs) = joined sep ps ++ sep :: joined sep qs := by
  unfold joined
  induction ps with
  | nil => exact absurd rfl hps
  | cons p ps ih =>
    cases ps with
    | nil => simp [List.intercalate_cons_of_ne_nil hqs]
    | cons q ps => simp_all

end Blocklist.Text
