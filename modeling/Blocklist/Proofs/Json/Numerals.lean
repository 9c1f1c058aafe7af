import Blocklist.Json.Reading
import Blocklist.Proofs.Binary64.Decimal

/-! # Numerals in JSON texts

A numeral that is written in the form of the grammar is scanned as its parts. What it stands for is
not too great if its power of ten is not positive, or if its digits and the power stay below the
greatest number. -/

namespace Blocklist.Json

open Binary64

/-! ## Digits -/

/-- Whether no digit follows. -/
def EndsDigits (rest : List Char) : Prop :=
  ∀ c ∈ rest.head?, ¬c.isDigit

theorem takeWhile_isDigit {ds rest : List Char} (hds : ∀ c ∈ ds, c.isDigit)
    (hrest : EndsDigits rest) : (ds ++ rest).takeWhile Char.isDigit = ds := by
  rw [List.takeWhile_append_of_pos hds]
  cases rest with
  | nil => simp
  | cons c rest => simp [hrest c rfl]

theorem dropWhile_isDigit {ds rest : List Char} (hds : ∀ c ∈ ds, c.isDigit)
    (hrest : EndsDigits rest) : (ds ++ rest).dropWhile Char.isDigit = rest := by
  rw [List.dropWhile_append_of_pos hds]
  cases rest with
  | nil => rfl
  | cons c rest => simp [hrest c rfl]

theorem le_ofDigitChars (ds : List Char) (n : Nat) : n ≤ Nat.ofDigitChars 10 ds n := by
  rw [Nat.ofDigitChars_eq_ofDigitChars_zero]
  have hpos : 0 < 10 ^ ds.length := Nat.pow_pos (by decide)
  have := Nat.le_mul_of_pos_left n hpos
  omega

/-- Digits that do not exceed the limit are all added. -/
theorem addDigits_eq {limit n : Nat} {ds : List Char} (h : Nat.ofDigitChars 10 ds n ≤ limit) :
    addDigits limit n ds = (Nat.ofDigitChars 10 ds n, []) := by
  induction ds generalizing n with
  | nil => rfl
  | cons d ds ih =>
    have hcons : Nat.ofDigitChars 10 (d :: ds) n =
        Nat.ofDigitChars 10 ds (n * 10 + digitValue d) := by
      rw [Nat.ofDigitChars_cons, Nat.mul_comm, digitValue]
    rw [hcons] at h ⊢
    rw [addDigits, if_pos ((le_ofDigitChars ds _).trans h), ih h]

theorem ofDigitChars_lt {ds : List Char} (h : ∀ c ∈ ds, c.isDigit) :
    Nat.ofDigitChars 10 ds 0 < 10 ^ ds.length := by
  induction ds with
  | nil => decide
  | cons d ds ih =>
    have hd : d.toNat - '0'.toNat ≤ 9 :=
      Nat.sub_le_sub_right (Char.isDigit_iff_toNat.mp (h d List.mem_cons_self)).2 _
    have hds := ih fun c hc => h c (List.mem_cons_of_mem d hc)
    rw [Nat.ofDigitChars_cons, Nat.ofDigitChars_eq_ofDigitChars_zero, List.length_cons,
      Nat.pow_succ, Nat.mul_zero, Nat.zero_add]
    have := Nat.mul_le_mul_left (10 ^ ds.length) hd
    omega

/-! ## The parts of a numeral -/

namespace Numeral

/-- Digits that may stand in a part of a numeral. -/
def AreDigits (ds : List Char) : Prop :=
  ds ≠ [] ∧ ∀ c ∈ ds, c.isDigit

/-- A numeral with the digits that the grammar asks for. -/
structure IsWritten (m : Numeral) : Prop where
  whole : AreDigits m.whole
  noLeadingZero : m.whole.head? = some '0' → m.whole.length ≤ 1
  fraction : ∀ ds, m.fraction = some ds → AreDigits ds
  exponent : ∀ negative ds, m.exponent = some (negative, ds) → AreDigits ds

def fractionChars (m : Numeral) : List Char :=
  m.fraction.elim [] ('.' :: ·)

def exponentChars (m : Numeral) : List Char :=
  m.exponent.elim [] fun (negative, ds) => 'e' :: (if negative then '-' else '+') :: ds

/-- A numeral without its sign. -/
def unsignedChars (m : Numeral) : List Char :=
  m.whole ++ (m.fractionChars ++ m.exponentChars)

def chars (m : Numeral) : List Char :=
  (if m.negative then ['-'] else []) ++ m.unsignedChars

/-- Whether what follows a numeral does not continue it. -/
def EndsWith (rest : List Char) : Prop :=
  ∀ c ∈ rest.head?, ¬c.isDigit ∧ c ≠ '.' ∧ c ≠ 'e' ∧ c ≠ 'E'

variable {m : Numeral} {rest : List Char}

theorem scanExponent_exponentChars (hm : m.IsWritten) (hrest : EndsWith rest) :
    scanExponent (m.exponentChars ++ rest) = .ok (m.exponent, rest) := by
  have hdigits : EndsDigits rest := fun c hc => (hrest c hc).1
  cases hexp : m.exponent with
  | none =>
    cases rest with
    | nil => simp [exponentChars, hexp, scanExponent]
    | cons c rest => simp [exponentChars, hexp, scanExponent, hrest c rfl]
  | some e =>
    obtain ⟨negative, ds⟩ := e
    obtain ⟨hne, hds⟩ := hm.exponent negative ds hexp
    have htake := takeWhile_isDigit hds hdigits
    have hdrop := dropWhile_isDigit hds hdigits
    cases negative <;> simp [exponentChars, hexp, scanExponent, htake, hdrop, hne]

theorem scanFraction_fractionChars (hm : m.IsWritten) {rest : List Char}
    (hrest : ∀ c ∈ rest.head?, ¬c.isDigit ∧ c ≠ '.') :
    scanFraction (m.fractionChars ++ rest) = .ok (m.fraction, rest) := by
  cases hfraction : m.fraction with
  | none =>
    cases rest with
    | nil => simp [fractionChars, hfraction, scanFraction]
    | cons c rest =>
      rw [fractionChars, hfraction]
      simp [scanFraction, (hrest c rfl).2]
  | some ds =>
    obtain ⟨hne, hds⟩ := hm.fraction ds hfraction
    have hdigits : EndsDigits rest := fun c hc => (hrest c hc).1
    have htake := takeWhile_isDigit hds hdigits
    have hdrop := dropWhile_isDigit hds hdigits
    simp [fractionChars, hfraction, scanFraction, htake, hdrop, hne]

theorem endsExponent (hrest : EndsWith rest) :
    ∀ c ∈ (m.exponentChars ++ rest).head?, ¬c.isDigit ∧ c ≠ '.' := by
  intro c hc
  cases hexp : m.exponent with
  | none =>
    rw [exponentChars, hexp] at hc
    exact ⟨(hrest c hc).1, (hrest c hc).2.1⟩
  | some e =>
    obtain rfl : 'e' = c := by simpa [exponentChars, hexp] using hc
    decide

theorem endsFraction (hrest : EndsWith rest) :
    EndsDigits (m.fractionChars ++ (m.exponentChars ++ rest)) := by
  intro c hc
  cases hfraction : m.fraction with
  | none =>
    rw [fractionChars, hfraction] at hc
    exact (endsExponent hrest c hc).1
  | some ds =>
    obtain rfl : '.' = c := by simpa [fractionChars, hfraction] using hc
    decide

/-- A numeral that is written as the grammar asks for is scanned as its parts. -/
theorem scanNumeral_unsignedChars (hm : m.IsWritten) (hrest : EndsWith rest) :
    scanNumeral m.negative (m.unsignedChars ++ rest) = .ok (m, rest) := by
  obtain ⟨hne, hwhole⟩ := hm.whole
  have htake := takeWhile_isDigit hwhole (endsFraction (m := m) hrest)
  have hdrop := dropWhile_isDigit hwhole (endsFraction (m := m) hrest)
  have hzero : (m.whole.head? == some '0' && decide (1 < m.whole.length)) = false := by
    simpa using hm.noLeadingZero
  rw [unsignedChars, List.append_assoc, List.append_assoc, scanNumeral]
  simp only [htake, hdrop, hzero, List.isEmpty_iff, hne, if_false, Bool.false_eq_true,
    scanFraction_fractionChars hm (endsExponent hrest)]
  show (scanExponent (m.exponentChars ++ rest) >>= fun e =>
    pure ((⟨m.negative, m.whole, m.fraction, e.1⟩ : Numeral), e.2)) = .ok (m, rest)
  rw [scanExponent_exponentChars hm hrest]
  rfl

end Numeral

/-! ## Powers of ten -/

/-- The digits that the bound on all numbers starts with. -/
theorem overflow_div_pow : (overflow - 1) / 10 ^ greatestPower = 17976931348623158 := by
  decide +kernel

/-- No power of ten that numerals are scaled by is too great. -/
theorem lt_overflow {n k : Nat} (hk : k ≤ maxPower) (hn : n ≤ 10 ^ k) : n < overflow := by
  have hquotient : 10 ^ 16 ≤ (overflow - 1) / 10 ^ greatestPower := by
    rw [overflow_div_pow]
    decide
  have hpos : 0 < 10 ^ greatestPower := Nat.pow_pos (by decide)
  have hmax := (Nat.le_div_iff_mul_le hpos).mp hquotient
  have hpow : 10 ^ k ≤ 10 ^ 16 * 10 ^ greatestPower := by
    rw [← Nat.pow_add]
    exact Nat.pow_le_pow_right (by decide) hk
  omega

theorem toMagnitude_powerOfTen {k : Nat} (hk : k ≤ maxPower) :
    (powerOfTen k).toMagnitude = rounded (10 ^ k) 1 := by
  obtain ⟨x, hx, hmagnitude⟩ := exists_ofNat?_eq_some (lt_overflow hk (Nat.le_refl _))
  rw [powerOfTen, Nat.pow_eq, hx]
  exact hmagnitude

theorem numerator_powerOfTen_mono {j k : Nat} (hk : k ≤ maxPower) (h : j ≤ k) :
    (powerOfTen j).numerator ≤ (powerOfTen k).numerator := by
  rw [toMagnitude_powerOfTen hk, toMagnitude_powerOfTen (h.trans hk)]
  exact numerator_rounded_le (Nat.pow_le_pow_right (by decide) h)

theorem numerator_powerOfTen_zero : (powerOfTen 0).numerator = 2 ^ leastPower := by
  decide +kernel

theorem le_numerator_powerOfTen {k : Nat} (hk : k ≤ maxPower) :
    2 ^ leastPower ≤ (powerOfTen k).numerator := by
  rw [← numerator_powerOfTen_zero]
  exact numerator_powerOfTen_mono hk (Nat.zero_le k)

/-- A number divided by a power of ten is not too great. -/
theorem isSome_div?_powerOfTen (x : Binary64) {k : Nat} (hk : k ≤ maxPower) :
    (x.div? (powerOfTen k)).isSome := by
  have hle := le_numerator_powerOfTen hk
  rw [div?, isSome_ofQuotient?_iff (Nat.lt_of_lt_of_le (Nat.two_pow_pos _) hle)]
  exact Nat.lt_of_lt_of_le x.numerator_lt (Nat.mul_le_mul_left _ hle)

theorem isSome_mul?_powerOfTen_zero (x : Binary64) : (x.mul? (powerOfTen 0)).isSome := by
  have hpos : 0 < 2 ^ leastPower := Nat.two_pow_pos _
  have hx := x.numerator_lt
  rw [isSome_mul?_iff, numerator_powerOfTen_zero, Nat.two_mul, Nat.pow_add,
    ← Nat.mul_assoc overflow]
  generalize overflow * 2 ^ leastPower = bound at hx ⊢
  exact Nat.mul_lt_mul_of_pos_right hx hpos

/-- Scaling by a power of ten that is not positive never leads to a number that is too great. -/
theorem isSome_scale?_of_nonpos (x : Binary64) {power : Int} (hpower : power ≤ 0) :
    (scale? x power).isSome := by
  induction hn : power.natAbs using Nat.strong_induction_on generalizing x power with
  | _ n ih =>
    rw [scale?]
    split
    · next hsmall =>
      split
      · next hzero =>
        obtain rfl : power = 0 := by omega
        exact isSome_mul?_powerOfTen_zero x
      · exact isSome_div?_powerOfTen x hsmall
    · next hlarge =>
      split
      · rfl
      · rw [if_neg (by omega)]
        have hdiv := isSome_div?_powerOfTen x (Nat.le_refl maxPower)
        obtain ⟨y, hy⟩ := Option.isSome_iff_exists.mp hdiv
        rw [hy, Option.bind_some]
        simp only [maxPower] at hlarge
        exact ih (power + maxPower).natAbs (by simp only [maxPower]; omega) y
          (by simp only [maxPower]; omega) rfl

/-- The greatest significand of up to 17 digits that a power of ten may go with. The upper neighbour
of the greatest number is not too great by itself, but it is so after scaling. -/
def greatestSignificand (k : Nat) : Nat :=
  if k = greatestPower then 17976931348623157 else min (10 ^ 17) ((overflow - 1) / 10 ^ k)

theorem greatestSignificand_le (k : Nat) : greatestSignificand k ≤ 10 ^ 17 := by
  unfold greatestSignificand
  split
  · decide
  · exact Nat.min_le_left _ _

/-- Up to the power 291 no significand leads to a number that is too great; the others have a bound
each. -/
theorem numerator_rounded_mul_lt :
    (rounded (10 ^ 17) 1).numerator * (powerOfTen 291).numerator <
        overflow * 2 ^ (2 * leastPower) ∧
      ∀ k < 17,
        (rounded (greatestSignificand (k + 292)) 1).numerator * (powerOfTen (k + 292)).numerator <
          overflow * 2 ^ (2 * leastPower) := by
  decide +kernel

theorem isSome_scale?_of_le {n k : Nat} (hk : k ≤ maxPower) (hn : n ≤ greatestSignificand k) :
    (scale? ((ofNat? n).getD .zero) k).isSome := by
  obtain ⟨hlow, hhigh⟩ := numerator_rounded_mul_lt
  have hlt : n < overflow := lt_overflow (by decide) (hn.trans (greatestSignificand_le k))
  obtain ⟨x, hx, hmagnitude⟩ := exists_ofNat?_eq_some hlt
  rw [hx, Option.getD_some, scale?, if_pos (by simpa using hk), if_pos (Int.natCast_nonneg k),
    Int.natAbs_natCast, isSome_mul?_iff, hmagnitude]
  by_cases hpower : k < 292
  · have hle := numerator_rounded_le (hn.trans (greatestSignificand_le k))
    have hmono := numerator_powerOfTen_mono (by decide) (Nat.le_of_lt_succ hpower)
    exact Nat.lt_of_le_of_lt (Nat.mul_le_mul hle hmono) hlow
  · obtain ⟨i, rfl⟩ := Nat.exists_eq_add_of_le' (Nat.le_of_not_lt hpower)
    have hi : i < 17 := by simpa [maxPower, Nat.lt_succ_iff] using hk
    exact Nat.lt_of_le_of_lt (Nat.mul_le_mul_right _ (numerator_rounded_le hn)) (hhigh i hi)

/-- A significand of up to 17 digits goes with a power of ten if their product is not too great,
with one exception. -/
theorem le_greatestSignificand {n k : Nat} (hlt : n * 10 ^ k < overflow) (hn : n ≤ 10 ^ 17)
    (hne : ¬(n = 17976931348623158 ∧ k = greatestPower)) : n ≤ greatestSignificand k := by
  have hquotient : n ≤ (overflow - 1) / 10 ^ k :=
    (Nat.le_div_iff_mul_le (Nat.pow_pos (by decide))).mpr (Nat.le_sub_one_of_lt hlt)
  unfold greatestSignificand
  split
  · next hk =>
    subst hk
    rw [overflow_div_pow] at hquotient
    omega
  · exact Nat.le_min.mpr ⟨hn, hquotient⟩

end Blocklist.Json
