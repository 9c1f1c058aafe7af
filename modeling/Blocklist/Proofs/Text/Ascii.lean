import Blocklist.Text.AsciiCase
import Mathlib

/-! # ASCII characters

A statement about ASCII characters is checked code by code. -/

namespace Blocklist.Text

/-- What holds of the characters with the first 128 codes holds of every ASCII character. -/
theorem forall_ascii {p : Char → Prop} (h : ∀ n < 128, p (Char.ofNat n)) {c : Char}
    (hc : c.toNat < 128) : p c := by
  have hp := h c.toNat hc
  rwa [Char.ofNat_toNat] at hp

/-- Characters outside ASCII have no other case. -/
theorem toLower_of_not_ascii {c : Char} (h : 128 ≤ c.toNat) : c.toLower = c := by
  have hupper : ¬ (c.val ≥ 'A'.val ∧ c.val ≤ 'Z'.val) := by
    rintro ⟨-, hle⟩
    have hle : c.toNat ≤ 'Z'.toNat := hle
    have hz : 'Z'.toNat = 90 := rfl
    omega
  rw [Char.toLower, dif_neg hupper]

/-- What holds of the ASCII characters, and of all others as they have no case, holds of a
character in lower case. -/
theorem toLower_cases {p : Char → Char → Prop}
    (h : ∀ n < 128, p (Char.ofNat n) (Char.ofNat n).toLower)
    (hid : ∀ c : Char, 128 ≤ c.toNat → p c c) (c : Char) : p c c.toLower := by
  by_cases hc : c.toNat < 128
  · exact forall_ascii (p := fun c => p c c.toLower) h hc
  · rw [toLower_of_not_ascii (Nat.not_lt.mp hc)]
    exact hid c (Nat.not_lt.mp hc)

theorem toNat_lt_of_toLower {c : Char} (h : c.toLower.toNat < 128) : c.toNat < 128 := by
  refine Nat.not_le.mp fun hc => ?_
  rw [toLower_of_not_ascii hc] at h
  exact Nat.not_lt.mpr hc h

/-- Only letters have another case. -/
theorem toLower_of_not_isAlpha {c : Char} (h : ¬ c.isAlpha) : c.toLower = c := by
  apply Char.toLower_eq_of_not_isUpper
  intro hupper
  exact h (by simp [Char.isAlpha, hupper])

theorem toLower_eq_iff {c d : Char} (hd : ¬ d.isAlpha) : c.toLower = d ↔ c = d := by
  constructor
  · rintro rfl
    rw [Char.isAlpha_toLower_eq_isAlpha] at hd
    exact (toLower_of_not_isAlpha hd).symm
  · rintro rfl
    exact toLower_of_not_isAlpha hd

theorem map_toLower_eq_self {cs : List Char} (h : ∀ c ∈ cs, ¬ c.isAlpha) :
    cs.map Char.toLower = cs :=
  (List.map_congr_left fun c hc => toLower_of_not_isAlpha (h c hc)).trans (List.map_id cs)

end Blocklist.Text
