import Blocklist.Binary64
import Mathlib.Data.Nat.Log
import Mathlib.Tactic.Ring

/-! # Rounding to double precision

Rounding keeps the order of quotients, and a quotient has a nearest number exactly if it is below a
fixed bound. -/

namespace Blocklist.Binary64

variable {n d n' d' : Nat} {x y : Binary64}

/-! ## Nearest natural numbers -/

private theorem add_le_mul {a b : Nat} (h : a < b) (d : Nat) : a * d + d ≤ b * d := by
  rw [← Nat.succ_mul]
  exact Nat.mul_le_mul_right d h

/-- The nearest natural number exceeds `k` if the quotient is above `k + 1 / 2`, or equal to it and
`k` is odd. -/
theorem lt_nearestQuotient_iff (hd : 0 < d) (k : Nat) :
    k < nearestQuotient n d ↔
      (2 * k + 1) * d < 2 * n ∨ (2 * k + 1) * d = 2 * n ∧ k % 2 = 1 := by
  have hn : n / d * d + n % d = n := Nat.div_add_mod' n d
  have hr : n % d < d := Nat.mod_lt n hd
  have hk : (2 * k + 1) * d = 2 * (k * d) + d := by ring
  rw [hk]
  unfold nearestQuotient
  simp only [Bool.or_eq_true, Bool.and_eq_true, decide_eq_true_eq, beq_iff_eq]
  rcases Nat.lt_trichotomy k (n / d) with hlt | heq | hgt
  · have := add_le_mul hlt d
    split <;> omega
  · subst heq
    split <;> omega
  · have := add_le_mul hgt d
    split <;> omega

theorem nearestQuotient_mono (hd : 0 < d) (hd' : 0 < d') (h : n * d' ≤ n' * d) :
    nearestQuotient n d ≤ nearestQuotient n' d' := by
  refine le_of_forall_lt fun k hk => ?_
  rw [lt_nearestQuotient_iff hd] at hk
  rw [lt_nearestQuotient_iff hd']
  have hcross : (2 * k + 1) * d ≤ 2 * n → (2 * k + 1) * d' ≤ 2 * n' := by
    intro hle
    refine Nat.le_of_mul_le_mul_right ?_ hd
    calc (2 * k + 1) * d' * d = (2 * k + 1) * d * d' := by ring
      _ ≤ 2 * n * d' := Nat.mul_le_mul_right d' hle
      _ = 2 * (n * d') := by ring
      _ ≤ 2 * (n' * d) := Nat.mul_le_mul_left 2 h
      _ = 2 * n' * d := by ring
  have hstrict : (2 * k + 1) * d < 2 * n → (2 * k + 1) * d' < 2 * n' := by
    intro hlt
    refine Nat.lt_of_mul_lt_mul_right (a := d) ?_
    calc (2 * k + 1) * d' * d = (2 * k + 1) * d * d' := by ring
      _ < 2 * n * d' := Nat.mul_lt_mul_of_pos_right hlt hd'
      _ = 2 * (n * d') := by ring
      _ ≤ 2 * (n' * d) := Nat.mul_le_mul_left 2 h
      _ = 2 * n' * d := by ring
  rcases hk with hlt | ⟨heq, hodd⟩
  · exact .inl (hstrict hlt)
  · rcases Nat.lt_or_eq_of_le (hcross heq.le) with hlt | heq'
    · exact .inl hlt
    · exact .inr ⟨heq', hodd⟩

theorem nearestQuotient_le {k : Nat} (hd : 0 < d) (h : n ≤ k * d) : nearestQuotient n d ≤ k := by
  refine Nat.le_of_not_lt fun hlt => ?_
  rw [lt_nearestQuotient_iff hd, Nat.add_mul, Nat.mul_assoc] at hlt
  omega

theorem le_nearestQuotient {k : Nat} (hd : 0 < d) (h : k * d ≤ n) : k ≤ nearestQuotient n d := by
  refine le_of_forall_lt fun j hj => ?_
  have := add_le_mul hj d
  rw [lt_nearestQuotient_iff hd, Nat.add_mul, Nat.mul_assoc]
  omega

/-! ## Rounded quotients -/

theorem ofQuotient?_eq_some_iff :
    ofQuotient? n d = some x ↔ x.toMagnitude = rounded n d ∧ x.negative = false := by
  simp only [ofQuotient?]
  constructor
  · intro h
    split at h
    · obtain rfl := Option.some.inj h
      exact ⟨rfl, rfl⟩
    · cases h
  · rintro ⟨hmagnitude, hsign⟩
    obtain ⟨magnitude, negative, hrange⟩ := x
    subst hmagnitude hsign
    exact dif_pos hrange

theorem scaled_lt (hd : 0 < d) :
    n <<< leastPower < 2 ^ precision * (d <<< roundingExponent n d) := by
  have hquotient : n <<< leastPower / d < 2 ^ (precision + roundingExponent n d) := by
    refine Nat.lt_of_lt_of_le Nat.lt_log2_self (Nat.pow_le_pow_right (by decide) ?_)
    simp only [roundingExponent, precision]
    omega
  rw [Nat.div_lt_iff_lt_mul hd, Nat.pow_add] at hquotient
  rwa [Nat.shiftLeft_eq d, Nat.mul_comm d, ← Nat.mul_assoc]

theorem le_scaled (h : 0 < roundingExponent n d) :
    2 ^ (precision - 1) * (d <<< roundingExponent n d) ≤ n <<< leastPower := by
  have hlog : precision - 1 + roundingExponent n d = (n <<< leastPower / d).log2 := by
    simp only [roundingExponent] at h ⊢
    omega
  have hne : n <<< leastPower / d ≠ 0 := by
    intro hzero
    simp [roundingExponent, hzero] at h
  have hquotient : 2 ^ (precision - 1 + roundingExponent n d) ≤ n <<< leastPower / d := by
    rw [hlog]
    exact Nat.log2_self_le hne
  calc 2 ^ (precision - 1) * (d <<< roundingExponent n d)
      = 2 ^ (precision - 1 + roundingExponent n d) * d := by
        rw [Nat.shiftLeft_eq, Nat.pow_add]
        ring
    _ ≤ n <<< leastPower / d * d := Nat.mul_le_mul_right d hquotient
    _ ≤ n <<< leastPower := Nat.div_mul_le_self _ d

theorem shiftLeft_pos (hd : 0 < d) (k : Nat) : 0 < d <<< k := by
  rw [Nat.shiftLeft_eq]
  exact Nat.mul_pos hd (Nat.two_pow_pos k)

theorem roundedSignificand_le (hd : 0 < d) : roundedSignificand n d ≤ 2 ^ precision :=
  nearestQuotient_le (shiftLeft_pos hd _) (scaled_lt hd).le

theorem le_roundedSignificand (hd : 0 < d) (h : 0 < roundingExponent n d) :
    2 ^ (precision - 1) ≤ roundedSignificand n d :=
  le_nearestQuotient (shiftLeft_pos hd _) (le_scaled h)

theorem numerator_rounded (n d : Nat) :
    (rounded n d).numerator = roundedSignificand n d <<< roundingExponent n d := by
  unfold rounded
  split
  · next hcarry =>
    rw [hcarry, Magnitude.numerator, ← Nat.shiftLeft_add, ← Nat.shiftLeft_add]
    congr 1
    simp only [precision]
    omega
  · rfl

/-- Only the exponent of a rounded quotient can be out of range. -/
theorem isInRange_rounded_iff (hd : 0 < d) :
    (rounded n d).IsInRange ↔ (rounded n d).exponent ≤ maxExponent := by
  refine ⟨fun h => h.exponent_le, fun hle => ?_⟩
  have hupper := roundedSignificand_le (n := n) hd
  refine ⟨?_, ?_, hle⟩
  · simp only [rounded, Nat.one_shiftLeft]
    split
    · exact Nat.pow_lt_pow_right (by decide) (by decide)
    · exact Nat.lt_of_le_of_ne hupper ‹_›
  · simp only [rounded, Nat.one_shiftLeft]
    split
    · exact .inr (Nat.le_refl _)
    · exact (Nat.eq_zero_or_pos _).imp_right (le_roundedSignificand hd)

theorem isZero_rounded_zero (hd : 0 < d) : (rounded 0 d).isZero := by
  have hzero : roundedSignificand 0 d = 0 :=
    Nat.eq_zero_of_le_zero (nearestQuotient_le (shiftLeft_pos hd _) (by simp))
  rw [rounded, hzero]
  rfl

theorem exponent_rounded (n d : Nat) :
    (rounded n d).exponent =
      roundingExponent n d + if roundedSignificand n d = 2 ^ precision then 1 else 0 := by
  rw [rounded, Nat.one_shiftLeft]
  split <;> rfl

/-! ## The order of rounded quotients -/

theorem roundingExponent_mono (hd : 0 < d) (hd' : 0 < d') (h : n * d' ≤ n' * d) :
    roundingExponent n d ≤ roundingExponent n' d' := by
  have hquotient : n <<< leastPower / d ≤ n' <<< leastPower / d' := by
    rw [Nat.le_div_iff_mul_le hd']
    refine Nat.le_of_mul_le_mul_right ?_ hd
    calc n <<< leastPower / d * d' * d = n <<< leastPower / d * d * d' := by ring
      _ ≤ n <<< leastPower * d' := Nat.mul_le_mul_right d' (Nat.div_mul_le_self _ d)
      _ = n * d' * 2 ^ leastPower := by rw [Nat.shiftLeft_eq]; ring
      _ ≤ n' * d * 2 ^ leastPower := Nat.mul_le_mul_right _ h
      _ = n' <<< leastPower * d := by rw [Nat.shiftLeft_eq]; ring
  rw [roundingExponent, roundingExponent, Nat.log2_eq_log_two, Nat.log2_eq_log_two]
  exact Nat.sub_le_sub_right (Nat.log_mono_right hquotient) _

/-- Rounding keeps the order. -/
theorem numerator_rounded_mono (hd : 0 < d) (hd' : 0 < d') (h : n * d' ≤ n' * d) :
    (rounded n d).numerator ≤ (rounded n' d').numerator := by
  rw [numerator_rounded, numerator_rounded]
  rcases Nat.lt_or_eq_of_le (roundingExponent_mono hd hd' h) with hlt | heq
  · -- the smaller significand reaches at most to the place where the greater one begins
    have hhigh := le_roundedSignificand hd' (Nat.zero_lt_of_lt hlt)
    calc roundedSignificand n d <<< roundingExponent n d
        ≤ 2 ^ (precision - 1 + 1) * 2 ^ roundingExponent n d := by
          rw [Nat.shiftLeft_eq]
          exact Nat.mul_le_mul_right _ (roundedSignificand_le hd)
      _ = 2 ^ (precision - 1) * 2 ^ (roundingExponent n d + 1) := by
          rw [Nat.pow_succ, Nat.pow_succ, Nat.mul_right_comm, Nat.mul_assoc]
      _ ≤ 2 ^ (precision - 1) * 2 ^ roundingExponent n' d' :=
          Nat.mul_le_mul_left _ (Nat.pow_le_pow_right (by decide) hlt)
      _ ≤ roundedSignificand n' d' <<< roundingExponent n' d' := by
          rw [Nat.shiftLeft_eq]
          exact Nat.mul_le_mul_right _ hhigh
  · rw [Nat.shiftLeft_eq, Nat.shiftLeft_eq, heq]
    refine Nat.mul_le_mul_right _
      (nearestQuotient_mono (shiftLeft_pos hd _) (shiftLeft_pos hd' _) ?_)
    simp only [Nat.shiftLeft_eq, heq]
    calc n * 2 ^ leastPower * (d' * 2 ^ roundingExponent n' d')
        = n * d' * (2 ^ leastPower * 2 ^ roundingExponent n' d') := Nat.mul_mul_mul_comm ..
      _ ≤ n' * d * (2 ^ leastPower * 2 ^ roundingExponent n' d') := Nat.mul_le_mul_right _ h
      _ = n' * 2 ^ leastPower * (d * 2 ^ roundingExponent n' d') := Nat.mul_mul_mul_comm ..

/-! ## Quotients that are too great -/

/-- The exponent of 2 in half the place of the last bit of the greatest number. -/
def overflowPower : Nat := 970

/-- The least number that is too great: halfway between the greatest number in double precision and
the power of two that follows it. -/
def overflow : Nat := (2 ^ 54 - 1) * 2 ^ overflowPower

/-- Powers of two near the bound, as multiples of the smallest positive number. -/
private theorem mul_two_pow_add (d k : Nat) :
    d * 2 ^ (overflowPower + k + leastPower) = d * 2 ^ overflowPower * 2 ^ k * 2 ^ leastPower := by
  rw [Nat.pow_add, Nat.pow_add, Nat.mul_assoc, Nat.mul_assoc, Nat.mul_assoc]

private theorem lt_of_roundingExponent_le (hd : 0 < d)
    (h : roundingExponent n d ≤ overflowPower + 0 + leastPower) :
    n < 2 ^ precision * (d * 2 ^ overflowPower) := by
  have hlt := scaled_lt (n := n) hd
  rw [Nat.shiftLeft_eq, Nat.shiftLeft_eq] at hlt
  refine Nat.lt_of_mul_lt_mul_right (a := 2 ^ leastPower) (Nat.lt_of_lt_of_le hlt ?_)
  rw [Nat.mul_assoc, ← Nat.mul_one (d * 2 ^ overflowPower), ← Nat.pow_zero 2, ← mul_two_pow_add]
  exact Nat.mul_le_mul_left _ (Nat.mul_le_mul_left _ (Nat.pow_le_pow_right (by decide) h))

private theorem le_of_le_roundingExponent
    (h : overflowPower + 2 + leastPower ≤ roundingExponent n d) :
    2 ^ (precision - 1) * (d * 2 ^ overflowPower * 2 ^ 2) ≤ n := by
  have hle := le_scaled (n := n) (d := d) (Nat.lt_of_lt_of_le (by decide) h)
  rw [Nat.shiftLeft_eq, Nat.shiftLeft_eq] at hle
  refine Nat.le_of_mul_le_mul_right (Nat.le_trans ?_ hle) (Nat.two_pow_pos leastPower)
  rw [Nat.mul_assoc, ← mul_two_pow_add]
  exact Nat.mul_le_mul_left _ (Nat.mul_le_mul_left _ (Nat.pow_le_pow_right (by decide) h))

private theorem roundedSignificand_eq_iff (hd : 0 < d)
    (h : roundingExponent n d = overflowPower + 1 + leastPower) :
    roundedSignificand n d = 2 ^ precision ↔ (2 ^ 54 - 1) * (d * 2 ^ overflowPower) ≤ n := by
  have hle := roundedSignificand_le (n := n) hd
  have hlt : roundedSignificand n d = 2 ^ precision ↔
      2 ^ precision - 1 < roundedSignificand n d := by
    simp only [precision] at hle ⊢
    omega
  have hunit : d <<< roundingExponent n d = d * 2 ^ overflowPower * 2 * 2 ^ leastPower := by
    rw [h, Nat.shiftLeft_eq, mul_two_pow_add, Nat.pow_one]
  have hpos : 0 < 2 ^ leastPower := Nat.two_pow_pos leastPower
  rw [hlt, roundedSignificand, lt_nearestQuotient_iff (shiftLeft_pos hd _), hunit, Nat.shiftLeft_eq,
    ← Nat.mul_le_mul_right_iff hpos]
  generalize 2 ^ leastPower = u
  generalize d * 2 ^ overflowPower = w
  have hw : w * 2 * u = 2 * (w * u) := by ring
  have hwu : (2 ^ 54 - 1) * w * u = (2 ^ 54 - 1) * (w * u) := Nat.mul_assoc ..
  rw [hw, hwu]
  simp only [precision]
  omega

theorem exponent_rounded_le_iff (hd : 0 < d) :
    (rounded n d).exponent ≤ maxExponent ↔ n < overflow * d := by
  have hbound : overflow * d = (2 ^ 54 - 1) * (d * 2 ^ overflowPower) := by
    rw [overflow, Nat.mul_assoc, Nat.mul_comm d]
  have hmax : maxExponent = overflowPower + 1 + leastPower := rfl
  have hpos : 0 < d * 2 ^ overflowPower := Nat.mul_pos hd (Nat.two_pow_pos _)
  rw [exponent_rounded, hbound, hmax]
  rcases Nat.lt_trichotomy (roundingExponent n d)
    (overflowPower + 1 + leastPower) with hlt | heq | hgt
  · have hsmall := lt_of_roundingExponent_le hd (Nat.le_of_lt_succ hlt)
    generalize d * 2 ^ overflowPower = w at *
    simp only [precision] at hsmall
    split <;> omega
  · rw [← Nat.not_le, ← roundedSignificand_eq_iff hd heq, heq]
    split <;> simp [*]
  · have hgreat := le_of_le_roundingExponent hgt
    generalize d * 2 ^ overflowPower = w at *
    simp only [precision] at hgreat
    split <;> omega

theorem isSome_ofQuotient?_iff (hd : 0 < d) :
    (ofQuotient? n d).isSome ↔ n < overflow * d := by
  rw [← exponent_rounded_le_iff hd, ← isInRange_rounded_iff hd, Option.isSome_iff_exists]
  simp only [ofQuotient?_eq_some_iff]
  constructor
  · rintro ⟨x, hx, -⟩
    exact hx ▸ x.inRange
  · intro h
    exact ⟨⟨rounded n d, false, h⟩, rfl, rfl⟩

theorem exists_ofNat?_eq_some (h : n < overflow) :
    ∃ x, ofNat? n = some x ∧ x.toMagnitude = rounded n 1 := by
  have hsome : (ofNat? n).isSome := (isSome_ofQuotient?_iff Nat.one_pos).mpr (by rwa [Nat.mul_one])
  obtain ⟨x, hx⟩ := Option.isSome_iff_exists.mp hsome
  exact ⟨x, hx, (ofQuotient?_eq_some_iff.mp hx).1⟩

theorem numerator_rounded_le (h : n ≤ n') :
    (rounded n 1).numerator ≤ (rounded n' 1).numerator :=
  numerator_rounded_mono Nat.one_pos Nat.one_pos (Nat.mul_le_mul_right 1 h)

theorem isSome_mul?_iff :
    (x.mul? y).isSome ↔ x.numerator * y.numerator < overflow * 2 ^ (2 * leastPower) := by
  rw [mul?, isSome_ofQuotient?_iff (shiftLeft_pos Nat.one_pos _), Nat.one_shiftLeft]

/-- No number is so great that it would not have a nearest number itself. -/
theorem numerator_lt (x : Binary64) : x.numerator < overflow * 2 ^ leastPower := by
  have hmax : maxExponent = overflowPower + 1 + leastPower := rfl
  have hplace : 2 ^ x.exponent ≤ 2 ^ maxExponent :=
    Nat.pow_le_pow_right (by decide) x.inRange.exponent_le
  have hsignificand := Nat.le_sub_one_of_lt x.inRange.significand_lt
  have hpos : 0 < 2 ^ overflowPower * 2 ^ leastPower :=
    Nat.mul_pos (Nat.two_pow_pos _) (Nat.two_pow_pos _)
  rw [Magnitude.numerator, Nat.shiftLeft_eq, overflow, Nat.mul_assoc]
  refine Nat.lt_of_le_of_lt (Nat.mul_le_mul hsignificand hplace) ?_
  rw [hmax, Nat.pow_add, Nat.pow_add, Nat.mul_right_comm (2 ^ overflowPower)]
  generalize 2 ^ overflowPower * 2 ^ leastPower = u at *
  simp only [precision, Nat.one_shiftLeft]
  omega

end Blocklist.Binary64
