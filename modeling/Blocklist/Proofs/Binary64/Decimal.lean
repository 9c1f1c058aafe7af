import Blocklist.Proofs.Binary64.Rounding
import Blocklist.Proofs.Text.Trimming

/-! # The decimal form of numbers

What the shortest digits that are read as a number look like: how many there are, that no zero leads
them, and that the number they stand for is not too great. -/

namespace Blocklist.Binary64

open Text

variable {x : Binary64} {digits m : Nat} {e : Int}

/-! ## Digits of natural numbers -/

theorem head?_toDigits {n : Nat} (hn : 0 < n) : (Nat.toDigits 10 n).head? ≠ some '0' := by
  induction n using Nat.strong_induction_on with
  | _ n ih =>
    by_cases hsmall : n < 10
    · rw [Nat.toDigits_of_lt_base hsmall]
      simp
      omega
    · have hpos : 0 < n / 10 := by omega
      rw [Nat.toDigits_of_base_le (by decide) (by omega),
        List.head?_append_of_ne_nil _ Nat.toDigits_ne_nil]
      exact ih (n / 10) (by omega) hpos

/-- The digits of a natural number without the zeros at their end. -/
def significantDigits (n : Nat) : List Char :=
  dropEndWhile (· == '0') (Nat.toDigits 10 n)

/-- The digits without the zeros at their end stand for the number less a power of ten. -/
theorem exists_zeros (n : Nat) :
    ∃ zeros, Nat.toDigits 10 n = significantDigits n ++ List.replicate zeros '0' ∧
      Nat.ofDigitChars 10 (significantDigits n) 0 * 10 ^ zeros = n := by
  obtain ⟨removed, happend, hremoved⟩ :=
    exists_eq_dropEndWhile_append (· == '0') (Nat.toDigits 10 n)
  have hzeros : removed = List.replicate removed.length '0' :=
    List.eq_replicate_iff.mpr ⟨rfl, fun c hc => by simpa using hremoved c hc⟩
  rw [hzeros] at happend
  refine ⟨removed.length, happend, ?_⟩
  calc Nat.ofDigitChars 10 (significantDigits n) 0 * 10 ^ removed.length
      = Nat.ofDigitChars 10 (Nat.toDigits 10 n) 0 := by
        conv_rhs => rw [happend]
        rw [significantDigits, Nat.ofDigitChars_append, Nat.ofDigitChars_replicate_zero,
          Nat.mul_comm]
    _ = n := Nat.ofDigitChars_ten_toDigits

theorem isDigit_of_mem_significantDigits {n : Nat} {c : Char} (hc : c ∈ significantDigits n) :
    c.isDigit := by
  obtain ⟨zeros, happend, -⟩ := exists_zeros n
  refine Nat.isDigit_of_mem_toDigits (b := 10) (n := n) (by decide) (by decide) ?_
  rw [happend]
  exact List.mem_append_left _ hc

/-- The first significant digit is no zero. -/
theorem exists_cons_significantDigits {n : Nat} (hn : 0 < n) :
    ∃ c cs, significantDigits n = c :: cs ∧ c ≠ '0' := by
  obtain ⟨zeros, happend, hvalue⟩ := exists_zeros n
  have hhead := head?_toDigits hn
  cases hdigits : significantDigits n with
  | nil =>
    rw [hdigits, Nat.ofDigitChars_nil, Nat.zero_mul] at hvalue
    omega
  | cons c cs =>
    refine ⟨c, cs, rfl, fun hc => ?_⟩
    rw [happend, hdigits, hc] at hhead
    exact hhead rfl

/-! ## The place of the point -/

theorem pointPlace_spec (x : Binary64) :
    -330 < x.pointPlace ∧
      x.numerator * 10 ^ (-x.pointPlace).toNat < 1 <<< leastPower * 10 ^ x.pointPlace.toNat := by
  have hunit : 0 < 1 <<< leastPower := shiftLeft_pos Nat.one_pos _
  unfold pointPlace
  generalize 1 <<< leastPower = unit at hunit ⊢
  simp only []
  split
  · have hlen : 0 < (Nat.toDigits 10 (x.numerator / unit)).length := Nat.length_toDigits_pos
    have hlt := (Nat.length_toDigits_le_iff (by decide) hlen).mp (Nat.le_refl _)
    refine ⟨by omega, ?_⟩
    rw [Int.toNat_natCast, Int.toNat_of_nonpos (by omega), Nat.pow_zero, Nat.mul_one, Nat.mul_comm]
    exact (Nat.div_lt_iff_lt_mul hunit).mp hlt
  · next hlt =>
    split
    · next zeros hfind =>
      obtain ⟨-, hmem, hbefore⟩ := List.find?_range_eq_some.mp hfind
      have hzeros : zeros < 330 := List.mem_range.mp hmem
      refine ⟨by omega, ?_⟩
      rw [Int.neg_neg, Int.toNat_natCast, Int.toNat_of_nonpos (by omega), Nat.pow_zero, Nat.mul_one]
      cases zeros with
      | zero => simpa using hlt
      | succ zeros => simpa using hbefore zeros (Nat.lt_succ_self zeros)
    · exact ⟨by decide, by simpa using hlt⟩

/-- The numbers next to a number have as many digits as are asked for, or are the least one with
one digit more. -/
theorem le_of_mem_neighbours (h : m ∈ x.neighbours digits) : m ≤ 10 ^ digits := by
  have hunit : 0 < 1 <<< leastPower := shiftLeft_pos Nat.one_pos _
  obtain ⟨-, hpoint⟩ := pointPlace_spec x
  unfold neighbours at h
  generalize 1 <<< leastPower = unit at hunit hpoint h
  simp only [Nat.pow_eq] at h
  generalize hshift : (digits : Int) - x.pointPlace = shift at h
  have hbelow : x.numerator * 10 ^ shift.toNat / (unit * 10 ^ (-shift).toNat) < 10 ^ digits := by
    rw [Nat.div_lt_iff_lt_mul (Nat.mul_pos hunit (Nat.pow_pos (by decide)))]
    refine Nat.lt_of_mul_lt_mul_right (a := 10 ^ (-x.pointPlace).toNat) ?_
    have hexp : x.pointPlace.toNat + shift.toNat =
        digits + (-shift).toNat + (-x.pointPlace).toNat := by omega
    calc x.numerator * 10 ^ shift.toNat * 10 ^ (-x.pointPlace).toNat
        = x.numerator * 10 ^ (-x.pointPlace).toNat * 10 ^ shift.toNat := Nat.mul_right_comm ..
      _ < unit * 10 ^ x.pointPlace.toNat * 10 ^ shift.toNat :=
          Nat.mul_lt_mul_of_pos_right hpoint (Nat.pow_pos (by decide))
      _ = 10 ^ digits * (unit * 10 ^ (-shift).toNat) * 10 ^ (-x.pointPlace).toNat := by
          rw [Nat.mul_assoc unit, ← Nat.pow_add, hexp, Nat.pow_add, Nat.pow_add]
          ring
  split at h <;> simp only [List.mem_cons, List.not_mem_nil, or_false] at h <;> omega

/-! ## Decimal numbers that are read as a number -/

theorem isReadFrom_iff :
    x.isReadFrom m e ↔ ofQuotient? (m * 10 ^ e.toNat) (10 ^ (-e).toNat) = some x := by
  cases e with
  | ofNat k => simp [isReadFrom]
  | negSucc k =>
    show (ofQuotient? m (Nat.pow 10 (k + 1)) == some x) = true ↔
      ofQuotient? (m * 10 ^ 0) (10 ^ (k + 1)) = some x
    simp

theorem pos_of_isReadFrom (hx : x.isZero = false) (h : x.isReadFrom m e) : 0 < m := by
  refine Nat.pos_of_ne_zero fun hm => ?_
  have hmagnitude := (ofQuotient?_eq_some_iff.mp (isReadFrom_iff.mp h)).1
  rw [hmagnitude, hm, Nat.zero_mul, isZero_rounded_zero (Nat.pow_pos (by decide))] at hx
  cases hx

theorem lt_overflow_of_isReadFrom (h : x.isReadFrom m e) :
    m * 10 ^ e.toNat < overflow * 10 ^ (-e).toNat := by
  rw [← isSome_ofQuotient?_iff (Nat.pow_pos (by decide)), isReadFrom_iff.mp h]
  rfl

/-! ## The shortest digits -/

/-- The shortest digits come from a natural number that is read as the number with a power of ten;
if there is none, they are a single zero. -/
theorem shortest_cases (x : Binary64) :
    x.shortest = (['0'], 1) ∨
      ∃ digits m : Nat, digits ≤ 17 ∧ m ≤ 10 ^ digits ∧ x.isReadFrom m (x.pointPlace - digits) ∧
        x.shortest = (significantDigits m,
          x.pointPlace + ((Nat.toDigits 10 m).length - digits)) := by
  unfold shortest
  simp only []
  cases hfound : (List.range 17).findSome? _ with
  | none => exact .inl rfl
  | some found =>
    right
    obtain ⟨i, hi, hmap⟩ := List.exists_of_findSome?_eq_some hfound
    obtain ⟨m, hfind, rfl⟩ := Option.map_eq_some_iff.mp hmap
    have hread : x.isReadFrom m (x.pointPlace - (i + 1 : Nat)) := by
      simpa using List.find?_some hfind
    exact ⟨i + 1, m, List.mem_range.mp hi, le_of_mem_neighbours (List.mem_of_find?_eq_some hfind),
      hread, rfl⟩

/-- The number of digits of the greatest numbers in front of the point. -/
def maxPlace : Nat := 309

theorem overflow_le : overflow ≤ 10 ^ maxPlace := by
  decide +kernel

/-- Digits and the place of the point as in the decimal form of a number. -/
structure IsDecimal (ds : List Char) (point : Int) : Prop where
  ne_nil : ds ≠ []
  isDigit : ∀ c ∈ ds, c.isDigit
  noLeadingZero : ds.head? = some '0' → ds = ['0'] ∧ point = 1
  length_le : ds.length ≤ 18
  value_le : Nat.ofDigitChars 10 ds 0 ≤ 10 ^ 17
  point_gt : -400 < point
  /-- With zeros up to the point the digits stand for a number that is not too great. -/
  value_lt : ∀ k : Nat, point = ds.length + k → Nat.ofDigitChars 10 ds 0 * 10 ^ k < overflow
  zeros_lt : ∀ k : Nat, point = ds.length + k → k < maxPlace

theorem isDecimal_zero : IsDecimal ['0'] 1 where
  ne_nil := by decide
  isDigit := List.forall_mem_singleton.mpr (by decide)
  noLeadingZero := fun _ => ⟨rfl, rfl⟩
  length_le := by decide
  value_le := by decide
  point_gt := by decide
  value_lt := by
    intro k hk
    obtain rfl : k = 0 := by simpa using hk
    decide +kernel
  zeros_lt := by
    intro k hk
    obtain rfl : k = 0 := by simpa using hk
    decide

theorem IsDecimal.point_lt {ds : List Char} {point : Int} (h : IsDecimal ds point) :
    point < 400 := by
  by_cases hpoint : (ds.length : Int) ≤ point
  · obtain ⟨k, hk⟩ := Int.le.dest hpoint
    have := h.zeros_lt k hk.symm
    have := h.length_le
    simp only [maxPlace] at *
    omega
  · have := h.length_le
    omega

/-- The significant digits with zeros up to the point stand for a number that is not too great. -/
theorem significantDigits_lt_overflow (hread : x.isReadFrom m e) {k : Nat}
    (hk : e + (Nat.toDigits 10 m).length = (significantDigits m).length + k) :
    Nat.ofDigitChars 10 (significantDigits m) 0 * 10 ^ k < overflow := by
  obtain ⟨zeros, happend, hvalue⟩ := exists_zeros m
  have hlen : (Nat.toDigits 10 m).length = (significantDigits m).length + zeros := by
    conv_lhs => rw [happend]
    rw [List.length_append, List.length_replicate]
  have hlt := lt_overflow_of_isReadFrom hread
  have hexp : zeros + e.toNat = k + (-e).toNat := by omega
  rw [← hvalue, Nat.mul_assoc, ← Nat.pow_add, hexp, Nat.pow_add, ← Nat.mul_assoc] at hlt
  exact Nat.lt_of_mul_lt_mul_right hlt

/-- The shortest digits of a number make up its decimal form. -/
theorem isDecimal_shortest (hx : x.isZero = false) : IsDecimal x.shortest.1 x.shortest.2 := by
  rcases shortest_cases x with hzero | ⟨digits, m, hdigits, hm, hread, hshortest⟩
  · rw [hzero]
    exact isDecimal_zero
  rw [hshortest]
  show IsDecimal (significantDigits m) (x.pointPlace + ((Nat.toDigits 10 m).length - digits))
  obtain ⟨zeros, happend, hvalue⟩ := exists_zeros m
  obtain ⟨c, cs, hcons, hc⟩ := exists_cons_significantDigits (pos_of_isReadFrom hx hread)
  have hm : m ≤ 10 ^ 17 := hm.trans (Nat.pow_le_pow_right (by decide) hdigits)
  have hlen : (Nat.toDigits 10 m).length ≤ 18 :=
    (Nat.length_toDigits_le_iff (by decide) (by decide)).mpr (by omega)
  have hlen_pos : 0 < (Nat.toDigits 10 m).length := Nat.length_toDigits_pos
  have hlen_le : (significantDigits m).length ≤ (Nat.toDigits 10 m).length := by
    rw [happend, List.length_append]
    exact Nat.le_add_right _ _
  have hvalue_pos : 0 < Nat.ofDigitChars 10 (significantDigits m) 0 :=
    Nat.pos_of_mul_pos_right (hvalue ▸ pos_of_isReadFrom hx hread)
  obtain ⟨hpoint, -⟩ := pointPlace_spec x
  have hvalue_lt : ∀ k : Nat,
      x.pointPlace + ((Nat.toDigits 10 m).length - digits) = (significantDigits m).length + k →
        Nat.ofDigitChars 10 (significantDigits m) 0 * 10 ^ k < overflow := fun k hk =>
    significantDigits_lt_overflow hread (by omega)
  refine ⟨by simp [hcons], fun c hc => isDigit_of_mem_significantDigits hc, ?_, by omega, ?_,
    by omega, hvalue_lt, ?_⟩
  · intro hzero
    rw [hcons] at hzero
    exact absurd (Option.some.inj hzero) hc
  · exact (Nat.le_mul_of_pos_right _ (Nat.pow_pos (by decide))).trans (hvalue.trans_le hm)
  · intro k hk
    refine Nat.lt_of_not_le fun hle => ?_
    have hpow : 10 ^ maxPlace ≤ 10 ^ k := Nat.pow_le_pow_right (by decide) hle
    exact Nat.not_lt.mpr (overflow_le.trans (hpow.trans (Nat.le_mul_of_pos_left _ hvalue_pos)))
      (hvalue_lt k hk)

/-- The power of ten that goes with 17 digits of the greatest number. -/
def greatestPower : Nat := 292

/-- The greatest number. -/
def greatest : Binary64 where
  significand := 2 ^ precision - 1
  exponent := maxExponent
  negative := false
  inRange := by decide

/-- The upper neighbour of the greatest number among those of 17 digits is read as it, but its
shortest digits are those of the lower neighbour, which is nearer. -/
theorem shortest_greatest :
    ofQuotient? (17976931348623158 * 10 ^ greatestPower) 1 = some greatest ∧
      greatest.shortest = ("17976931348623157".toList, (maxPlace : Int)) := by
  decide +kernel

theorem shortest_ne (x : Binary64) (h : Nat.ofDigitChars 10 x.shortest.1 0 = 17976931348623158) :
    x.shortest.2 ≠ x.shortest.1.length + greatestPower := by
  intro hpoint
  obtain ⟨hread', hgreatest⟩ := shortest_greatest
  rcases shortest_cases x with hzero | ⟨digits, m, hdigits, hm, hread, hshortest⟩
  · rw [hzero] at h
    exact absurd h (by decide)
  rw [hshortest] at h hpoint
  replace h : Nat.ofDigitChars 10 (significantDigits m) 0 = 17976931348623158 := h
  replace hpoint : x.pointPlace + ((Nat.toDigits 10 m).length - digits) =
    (significantDigits m).length + greatestPower := hpoint
  obtain ⟨zeros, happend, hvalue⟩ := exists_zeros m
  have hm : m ≤ 10 ^ 17 := hm.trans (Nat.pow_le_pow_right (by decide) hdigits)
  -- the number has 17 digits, so there is no room for a zero behind them
  have hzeros : zeros = 0 := by
    cases zeros with
    | zero => rfl
    | succ zeros =>
      rw [h, Nat.pow_succ] at hvalue
      have : 0 < 10 ^ zeros := Nat.pow_pos (by decide)
      omega
  rw [hzeros, List.replicate_zero, List.append_nil] at happend
  rw [h, hzeros, Nat.pow_zero, Nat.mul_one] at hvalue
  rw [happend] at hpoint
  have hexp : x.pointPlace - digits = greatestPower := by omega
  have hx : x = greatest := by
    rw [isReadFrom_iff, hexp, ← hvalue, Int.toNat_natCast, Int.toNat_of_nonpos (by omega),
      Nat.pow_zero, hread'] at hread
    exact (Option.some.inj hread).symm
  rw [hx, hgreatest] at hshortest
  rw [← (Prod.mk.inj hshortest).1] at h
  exact absurd h (by decide)

end Blocklist.Binary64
