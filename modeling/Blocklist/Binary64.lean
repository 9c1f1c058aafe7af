import Blocklist.Text.Blank
/-!
Numbers in double precision, without infinities. Each operation rounds its exact result to the
nearest number, and to the one with an even significand if two are equally near. The decimal form of
a number is the shortest one that is read as the same number.
-/

namespace Blocklist

namespace Binary64

def precision : Nat := 53

/-- The exponent of 2 in the smallest positive number, without its sign. -/
def leastPower : Nat := 1074

def maxExponent : Nat := 2045

/-- A number without its sign: `significand * 2 ^ (exponent - 1074)`. -/
structure Magnitude where
  significand : Nat
  exponent : Nat
deriving DecidableEq, Repr

namespace Magnitude

/-- Whether a number is one in double precision. The significand has 53 bits, or fewer if the
exponent is zero. -/
structure IsInRange (x : Magnitude) : Prop where
  significand_lt : x.significand < 1 <<< precision
  le_significand : x.exponent = 0 ∨ 1 <<< (precision - 1) ≤ x.significand
  exponent_le : x.exponent ≤ maxExponent

instance (x : Magnitude) : Decidable x.IsInRange :=
  decidable_of_iff
    (x.significand < 1 <<< precision ∧
      (x.exponent = 0 ∨ 1 <<< (precision - 1) ≤ x.significand) ∧ x.exponent ≤ maxExponent)
    ⟨fun h => ⟨h.1, h.2.1, h.2.2⟩,
      fun h => ⟨h.significand_lt, h.le_significand, h.exponent_le⟩⟩

/-- The numerator of a number, as a multiple of the smallest positive number. -/
def numerator (x : Magnitude) : Nat := x.significand <<< x.exponent

def isZero (x : Magnitude) : Bool := x.significand == 0

end Magnitude

end Binary64

/-- A number in double precision. -/
structure Binary64 extends Binary64.Magnitude where
  negative : Bool
  inRange : toMagnitude.IsInRange
deriving DecidableEq, Repr

namespace Binary64

def zero : Binary64 where
  significand := 0
  exponent := 0
  negative := false
  inRange := by decide

instance : Inhabited Binary64 := ⟨zero⟩

/-- The quotient rounded to the nearest number, or to the even one of two. -/
def nearestQuotient (n d : Nat) : Nat :=
  let q := n / d
  let r := n % d
  if 2 * r < d || (2 * r == d && q % 2 == 0) then q else q + 1

/-- The exponent with which a quotient is rounded. -/
def roundingExponent (n d : Nat) : Nat :=
  (n <<< leastPower / d).log2 - (precision - 1)

/-- The significand to which a quotient is rounded. It may have one bit too many. -/
def roundedSignificand (n d : Nat) : Nat :=
  nearestQuotient (n <<< leastPower) (d <<< roundingExponent n d)

/-- A quotient rounded to double precision, with an exponent that may be too great. -/
def rounded (n d : Nat) : Magnitude :=
  if roundedSignificand n d = 1 <<< precision then
    ⟨1 <<< (precision - 1), roundingExponent n d + 1⟩
  else ⟨roundedSignificand n d, roundingExponent n d⟩

/-- The nearest number to a quotient, if it is not too great. -/
def ofQuotient? (n d : Nat) : Option Binary64 :=
  let x := rounded n d
  if h : x.IsInRange then some { x with negative := false, inRange := h } else none

def neg (x : Binary64) : Binary64 := { x with negative := !x.negative }

/-- The nearest number to a natural number, if that is not too great. -/
def ofNat? (n : Nat) : Option Binary64 := ofQuotient? n 1

/-- The product of two numbers that are not negative, if it is not too great. -/
def mul? (x y : Binary64) : Option Binary64 :=
  ofQuotient? (x.numerator * y.numerator) (1 <<< (2 * leastPower))

/-- The quotient of two numbers that are not negative, if it is not too great. -/
def div? (x y : Binary64) : Option Binary64 :=
  ofQuotient? x.numerator y.numerator

/-! ## The decimal form -/

/-- The number of digits in front of the point; for a number below 1, less the zeros behind it. -/
def pointPlace (x : Binary64) : Int :=
  let unit := 1 <<< leastPower
  if unit ≤ x.numerator then ((Nat.toDigits 10 (x.numerator / unit)).length : Int)
  else
    match (List.range 330).find? fun zeros => unit ≤ x.numerator * Nat.pow 10 (zeros + 1) with
    | some zeros => -(zeros : Int)
    | none => 0

/-- Whether `m * 10 ^ e` is read as a given positive number. -/
def isReadFrom (x : Binary64) (m : Nat) (e : Int) : Bool :=
  (match e with
    | .ofNat k => ofQuotient? (m * Nat.pow 10 k) 1
    | .negSucc k => ofQuotient? m (Nat.pow 10 (k + 1))) == some x

/-- The decimal numbers of a given number of digits that are next to a positive number, below and
above, the nearer first, without the power of ten. -/
def neighbours (x : Binary64) (digits : Nat) : List Nat :=
  let unit := 1 <<< leastPower
  let shift := (digits : Int) - x.pointPlace
  let n := x.numerator * Nat.pow 10 shift.toNat
  let d := unit * Nat.pow 10 (-shift).toNat
  let below := n / d
  if nearestQuotient n d = below then [below, below + 1] else [below + 1, below]

/-- The shortest digits that are read as a positive number, and the place of the point in front of
or behind them. -/
def shortest (x : Binary64) : List Char × Int :=
  let found := (List.range 17).findSome? fun i =>
    let digits := i + 1
    ((x.neighbours digits).find? fun m => x.isReadFrom m (x.pointPlace - digits)).map fun m =>
      let written := Nat.toDigits 10 m
      (Text.dropEndWhile (· == '0') written,
        x.pointPlace + ((written.length : Int) - digits))
  found.getD (['0'], 1)

/-- Writes digits with a point, or with a power of ten if the number is small or large. -/
def layOut (digits : List Char) (point : Int) : List Char :=
  if 0 < point && point ≤ 16 then
    let n := point.toNat
    if digits.length ≤ n then
      digits ++ List.replicate (n - digits.length) '0' ++ ['.', '0']
    else digits.take n ++ '.' :: digits.drop n
  else if -5 < point && point ≤ 0 then
    ['0', '.'] ++ List.replicate (-point).toNat '0' ++ digits
  else
    let fraction := if digits.length = 1 then [] else '.' :: digits.drop 1
    let sign := if 0 < point then '+' else '-'
    digits.take 1 ++ fraction ++ ['e', sign] ++ Nat.toDigits 10 (point - 1).natAbs

def toChars (x : Binary64) : List Char :=
  let sign := if x.negative then ['-'] else []
  if x.isZero then sign ++ ['0', '.', '0']
  else
    let (digits, point) := shortest { x with negative := false }
    sign ++ layOut digits point

def toText (x : Binary64) : String := String.ofList x.toChars

end Binary64

end Blocklist
