import Blocklist.Proofs.Json.Numerals

/-! # Numbers in double precision in JSON texts

The decimal form of every number is a numeral, and this numeral stands for some number: reading it
never fails, though it may round differently. -/

namespace Blocklist

open Json (Numeral)

namespace Json.Numeral

/-! ## What a numeral stands for -/

/-- The digits that make up the significand, as a number. -/
def significand (m : Numeral) : Nat :=
  (addDigits maxNatural (addDigits maxNatural 0 m.whole).1 (m.fraction.getD [])).1

/-- The power of ten that the significand goes with, less the exponent. -/
def places (m : Numeral) : Int :=
  (addDigits maxNatural 0 m.whole).2.length - ((m.fraction.getD []).length -
    (addDigits maxNatural (addDigits maxNatural 0 m.whole).1 (m.fraction.getD [])).2.length : Nat)

/-- The significand rounded to double precision. -/
def rounded (m : Numeral) : Binary64 :=
  (Binary64.ofNat? m.significand).getD .zero

variable {m : Numeral}

theorem isSome_real?_of_exponent_eq_none (hexp : m.exponent = none)
    (h : (scale? m.rounded m.places).isSome) : m.real?.isSome := by
  rw [real?, hexp]
  simp only [Option.isSome_map]
  exact h

theorem isSome_real?_of_exponent_eq_some {negative : Bool} {ds : List Char} {e : Nat}
    (hexp : m.exponent = some (negative, ds)) (hds : addDigits maxExponent 0 ds = (e, []))
    (h : (scale? m.rounded (clampPower (if negative then m.places - e else m.places + e))).isSome) :
    m.real?.isSome := by
  rw [real?, hexp]
  simp only [hds, Option.isSome_map]
  exact h

theorem number?_eq_real? (h : m.fraction ≠ none ∨ m.exponent ≠ none) :
    m.number? = m.real?.map .real := by
  unfold number?
  split
  · next hfraction hexp _ => simp [hfraction, hexp] at h
  · rfl

/-- The significand goes with every power of ten that is not positive. -/
theorem isSome_scale?_rounded {power : Int} (hpower : power ≤ 0) :
    (scale? m.rounded power).isSome :=
  isSome_scale?_of_nonpos m.rounded hpower

theorem IsWritten.value_le (hm : m.IsWritten) (hlen : m.whole.length ≤ 16) :
    Nat.ofDigitChars 10 m.whole 0 ≤ maxNatural := by
  have hlt := ofDigitChars_lt hm.whole.2
  have hpow : 10 ^ m.whole.length ≤ 10 ^ 16 := Nat.pow_le_pow_right (by decide) hlen
  exact hlt.le.trans (hpow.trans (by decide))

/-- If all digits in front of the point count, the power of ten is not positive. -/
theorem IsWritten.places_nonpos (hm : m.IsWritten) (hlen : m.whole.length ≤ 16) : m.places ≤ 0 := by
  rw [places, addDigits_eq (hm.value_le hlen), List.length_nil]
  omega

/-- The parts of a numeral none of whose digits is dropped. -/
theorem significand_and_places {ds : List Char} (hm : m.whole ++ m.fraction.getD [] = ds)
    (h : Nat.ofDigitChars 10 ds 0 ≤ maxNatural) :
    m.significand = Nat.ofDigitChars 10 ds 0 ∧ m.places = -(m.fraction.getD []).length := by
  rw [← hm, Nat.ofDigitChars_append] at h ⊢
  have hwhole := addDigits_eq ((le_ofDigitChars _ _).trans h)
  rw [significand, places, hwhole, addDigits_eq h]
  simp

end Json.Numeral

namespace Binary64

/-! ## The numeral of a number -/

/-- The numeral with some digits and a point, as it is laid out. -/
def numeralOf (negative : Bool) (digits : List Char) (point : Int) : Numeral :=
  if 0 < point && point ≤ 16 then
    let n := point.toNat
    if digits.length ≤ n then
      ⟨negative, digits ++ List.replicate (n - digits.length) '0', some ['0'], none⟩
    else ⟨negative, digits.take n, some (digits.drop n), none⟩
  else if -5 < point && point ≤ 0 then
    ⟨negative, ['0'], some (List.replicate (-point).toNat '0' ++ digits), none⟩
  else
    ⟨negative, digits.take 1, if digits.length = 1 then none else some (digits.drop 1),
      some (decide (point ≤ 0), Nat.toDigits 10 (point - 1).natAbs)⟩

/-- The numeral of a number. -/
def numeral (x : Binary64) : Numeral :=
  if x.isZero then ⟨x.negative, ['0'], some ['0'], none⟩
  else
    let (digits, point) := shortest { x with negative := false }
    numeralOf x.negative digits point

theorem layOut_eq (negative : Bool) (digits : List Char) (point : Int) :
    layOut digits point = (numeralOf negative digits point).unsignedChars := by
  unfold layOut numeralOf
  simp only []
  split
  · split <;> simp [Numeral.unsignedChars, Numeral.fractionChars, Numeral.exponentChars]
  · split
    · simp [Numeral.unsignedChars, Numeral.fractionChars, Numeral.exponentChars]
    · have hsign : (if 0 < point then '+' else '-') = if decide (point ≤ 0) then '-' else '+' := by
        by_cases hpoint : 0 < point
        · simp [hpoint, Int.not_le.mpr hpoint]
        · simp [hpoint, Int.not_lt.mp hpoint]
      by_cases hlen : digits.length = 1 <;>
        simp [Numeral.unsignedChars, Numeral.fractionChars, Numeral.exponentChars, hlen, hsign]

theorem negative_numeralOf (negative : Bool) (digits : List Char) (point : Int) :
    (numeralOf negative digits point).negative = negative := by
  unfold numeralOf
  simp only []
  split
  · split <;> rfl
  · split <;> rfl

theorem toChars_eq (x : Binary64) : x.toChars = x.numeral.chars := by
  unfold toChars numeral
  by_cases hx : x.isZero
  · rw [if_pos hx, if_pos hx]
    rfl
  · simp only [if_neg hx, Numeral.chars, negative_numeralOf, layOut_eq x.negative]

/-! ## Reading the numeral -/

variable {digits : List Char} {point : Int}

theorem areDigits_zero : Numeral.AreDigits ['0'] :=
  ⟨by decide, List.forall_mem_singleton.mpr (by decide)⟩

/-- Digits of a number and zeros may stand in a part of a numeral. -/
theorem IsDecimal.areDigits (h : IsDecimal digits point) {ds : List Char} (hne : ds ≠ [])
    (hds : ∀ c ∈ ds, c ∈ digits ∨ c = '0') : Numeral.AreDigits ds := by
  refine ⟨hne, fun c hc => ?_⟩
  rcases hds c hc with hc | rfl
  · exact h.isDigit c hc
  · decide

theorem isWritten_numeralOf (negative : Bool) (h : IsDecimal digits point) :
    (numeralOf negative digits point).IsWritten := by
  have hlen : 0 < digits.length := List.length_pos_iff.mpr h.ne_nil
  unfold numeralOf
  simp only []
  split
  · next hpoint =>
    simp only [Bool.and_eq_true, decide_eq_true_eq] at hpoint
    split
    · next hle =>
      refine ⟨h.areDigits (by simp [h.ne_nil]) fun c hc => ?_, fun hzero => ?_, ?_, by simp⟩
      · exact (List.mem_append.mp hc).imp_right List.eq_of_mem_replicate
      · rw [List.head?_append_of_ne_nil _ h.ne_nil] at hzero
        obtain ⟨rfl, rfl⟩ := h.noLeadingZero hzero
        exact Nat.le_refl 1
      · rintro ds ⟨⟩
        exact areDigits_zero
    · next hgt =>
      refine ⟨h.areDigits (by simp [h.ne_nil]; omega) fun c hc => .inl (List.mem_of_mem_take hc),
        fun hzero => ?_, ?_, by simp⟩
      · rw [List.head?_take, if_neg (by omega)] at hzero
        obtain ⟨rfl, rfl⟩ := h.noLeadingZero hzero
        exact Nat.le_refl 1
      · rintro ds ⟨⟩
        exact h.areDigits (by simpa using hgt) fun c hc => .inl (List.mem_of_mem_drop hc)
  · split
    · refine ⟨areDigits_zero, fun _ => Nat.le_refl 1, ?_, by simp⟩
      rintro ds ⟨⟩
      exact h.areDigits (by simp [h.ne_nil]) fun c hc =>
        (List.mem_append.mp hc).symm.imp_right List.eq_of_mem_replicate
    · refine ⟨h.areDigits (by simp [h.ne_nil]) fun c hc => .inl (List.mem_of_mem_take hc),
        fun _ => List.length_take_le _ _, ?_, ?_⟩
      · intro ds hds
        obtain ⟨hne, hdrop⟩ := Option.ite_none_left_eq_some.mp hds
        obtain rfl := Option.some.inj hdrop
        exact h.areDigits (mt List.drop_eq_nil_iff.mp (by omega)) fun c hc =>
          .inl (List.mem_of_mem_drop hc)
      · rintro negative ds ⟨⟩
        exact ⟨Nat.toDigits_ne_nil, fun c hc =>
          Nat.isDigit_of_mem_toDigits (by decide) (by decide) hc⟩

/-- The decimal form has no exponent, or its digits are those of the number with one in front of the
point. -/
theorem numeralOf_cases (negative : Bool) (digits : List Char) (point : Int) :
    ((numeralOf negative digits point).exponent = none ∧
      (numeralOf negative digits point).whole.length ≤ 16) ∨
    ((numeralOf negative digits point).exponent =
        some (decide (point ≤ 0), Nat.toDigits 10 (point - 1).natAbs) ∧
      (numeralOf negative digits point).whole = digits.take 1 ∧
      (numeralOf negative digits point).fraction.getD [] = digits.drop 1) := by
  unfold numeralOf
  simp only []
  split
  · next hpoint =>
    simp only [Bool.and_eq_true, decide_eq_true_eq] at hpoint
    left
    split <;> refine ⟨rfl, ?_⟩ <;> simp <;> omega
  · split
    · exact .inl ⟨rfl, by simp⟩
    · refine .inr ⟨rfl, rfl, ?_⟩
      split
      · next hone => simp [List.drop_eq_nil_of_le hone.le]
      · rfl

theorem addDigits_toDigits {limit n : Nat} (h : n ≤ limit) :
    Json.addDigits limit 0 (Nat.toDigits 10 n) = (n, []) := by
  have hadd := @Json.addDigits_eq limit 0 (Nat.toDigits 10 n)
  rw [Nat.ofDigitChars_ten_toDigits] at hadd
  exact hadd h

theorem clampPower_eq {power : Int} (h : power.natAbs ≤ Json.maxExponent) :
    Json.clampPower power = power := by
  unfold Json.clampPower
  omega

/-- The digits of a number go with the power of ten that puts the point at its place. -/
theorem isSome_scale?_of_isDecimal {m : Numeral} (h : IsDecimal digits point)
    (hne : Nat.ofDigitChars 10 digits 0 = 17976931348623158 → point ≠ digits.length + greatestPower)
    (hm : m.significand = Nat.ofDigitChars 10 digits 0) :
    (Json.scale? m.rounded (point - digits.length)).isSome := by
  by_cases hpoint : point ≤ digits.length
  · exact Numeral.isSome_scale?_rounded (by omega)
  · obtain ⟨k, hk⟩ := Int.le.dest (Int.not_le.mp hpoint).le
    have hle := Json.le_greatestSignificand (h.value_lt k hk.symm) h.value_le fun hboth =>
      hne hboth.1 (by rw [← hk, hboth.2])
    have hpower : point - digits.length = k := by omega
    rw [hpower, Numeral.rounded, hm]
    exact Json.isSome_scale?_of_le (Nat.le_of_lt_succ (h.zeros_lt k hk.symm)) hle

/-- The decimal form of a number is read as some number. -/
theorem isSome_real?_numeralOf (negative : Bool) (h : IsDecimal digits point)
    (hne : Nat.ofDigitChars 10 digits 0 = 17976931348623158 →
      point ≠ digits.length + greatestPower) :
    (numeralOf negative digits point).real?.isSome := by
  have hm := isWritten_numeralOf negative h
  have hlen : 0 < digits.length := List.length_pos_iff.mpr h.ne_nil
  rcases numeralOf_cases negative digits point with ⟨hexp, hwhole⟩ | ⟨hexp, hwhole, hfraction⟩
  · exact Numeral.isSome_real?_of_exponent_eq_none hexp
      (Numeral.isSome_scale?_rounded (hm.places_nonpos hwhole))
  generalize numeralOf negative digits point = m at *
  have hdigits : m.whole ++ m.fraction.getD [] = digits := by
    rw [hwhole, hfraction, List.take_append_drop]
  have hvalue : Nat.ofDigitChars 10 digits 0 ≤ Json.maxNatural := h.value_le.trans (by decide)
  obtain ⟨hsignificand, hplaces⟩ := Numeral.significand_and_places hdigits hvalue
  rw [hfraction, List.length_drop] at hplaces
  have hgt := h.point_gt
  have hlt := h.point_lt
  have hbound : 500 ≤ Json.maxExponent := by decide
  refine Numeral.isSome_real?_of_exponent_eq_some hexp (addDigits_toDigits (by omega)) ?_
  have hpower : (if decide (point ≤ 0) then m.places - (point - 1).natAbs
      else m.places + (point - 1).natAbs) = point - digits.length := by
    by_cases hpoint : point ≤ 0
    · rw [if_pos (decide_eq_true hpoint)]
      omega
    · rw [if_neg (by simpa using hpoint)]
      omega
  have hlen_le := h.length_le
  rw [hpower, clampPower_eq (by omega)]
  exact isSome_scale?_of_isDecimal h hne hsignificand

/-! ## Every number is read back as some number -/

/-- What a number is read as, once it has been written. -/
def reread (x : Binary64) : Binary64 :=
  x.numeral.real?.getD .zero

theorem numeral_cases (x : Binary64) :
    x.numeral = ⟨x.negative, ['0'], some ['0'], none⟩ ∨
      ∃ y : Binary64, y.isZero = false ∧
        x.numeral = numeralOf x.negative y.shortest.1 y.shortest.2 := by
  unfold numeral
  cases hx : x.isZero with
  | true => exact .inl rfl
  | false => exact .inr ⟨{ x with negative := false }, hx, rfl⟩

theorem isWritten_zero (negative : Bool) :
    Numeral.IsWritten ⟨negative, ['0'], some ['0'], none⟩ where
  whole := areDigits_zero
  noLeadingZero := fun _ => Nat.le_refl 1
  fraction := by
    rintro ds ⟨⟩
    exact areDigits_zero
  exponent := by simp

theorem isWritten_numeral (x : Binary64) : x.numeral.IsWritten := by
  rcases numeral_cases x with hx | ⟨y, hy, hx⟩
  · rw [hx]
    exact isWritten_zero x.negative
  · rw [hx]
    exact isWritten_numeralOf _ (isDecimal_shortest hy)

theorem isSome_real?_numeral (x : Binary64) : x.numeral.real?.isSome := by
  rcases numeral_cases x with hx | ⟨y, hy, hx⟩
  · rw [hx]
    exact Numeral.isSome_real?_of_exponent_eq_none rfl
      (Numeral.isSome_scale?_rounded
        ((isWritten_zero x.negative).places_nonpos (show 1 ≤ 16 by decide)))
  · rw [hx]
    exact isSome_real?_numeralOf _ (isDecimal_shortest hy) (shortest_ne y)

theorem hasFractionOrExponent (x : Binary64) :
    x.numeral.fraction ≠ none ∨ x.numeral.exponent ≠ none := by
  rcases numeral_cases x with hx | ⟨y, hy, hx⟩
  · simp [hx]
  · rw [hx]
    unfold numeralOf
    simp only []
    split
    · split <;> simp
    · split <;> simp

/-- Whatever number is written, it is read as a number. -/
theorem number?_numeral (x : Binary64) : x.numeral.number? = some (.real x.reread) := by
  obtain ⟨y, hy⟩ := Option.isSome_iff_exists.mp (isSome_real?_numeral x)
  rw [Numeral.number?_eq_real? (hasFractionOrExponent x), reread, hy]
  rfl

end Binary64

end Blocklist
