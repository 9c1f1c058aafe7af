/-!
Punycode: texts in any script written with ASCII letters, digits and hyphens. The ASCII characters
of a text come first, in order; then, in ascending order of the others, come the distances between
the places where they are inserted, as numerals whose digits have varying weights.
-/

namespace Blocklist.Punycode

/-- The number of digits: letters and decimal digits. -/
def base : Nat := 36

/-- The least threshold between the digits that end a numeral and those that do not. -/
def leastThreshold : Nat := 1

def greatestThreshold : Nat := 26

def skew : Nat := 38

def damp : Nat := 700

def firstBias : Nat := 72

def firstInserted : Nat := 0x80

def digitChar (d : Nat) : Char :=
  Char.ofNat (if d < 26 then 0x61 + d else 0x16 + d)

def digit? (c : Char) : Option Nat :=
  if 'a' ≤ c && c ≤ 'z' then some (c.toNat - 0x61)
  else if 'A' ≤ c && c ≤ 'Z' then some (c.toNat - 0x41)
  else if '0' ≤ c && c ≤ '9' then some (c.toNat - 0x16)
  else none

/-- The threshold for the digit at a position, which is counted in steps of `base`. -/
def threshold (position bias : Nat) : Nat :=
  min greatestThreshold (max leastThreshold (position - bias))

theorem threshold_pos (position bias : Nat) : 0 < threshold position bias := by
  simp only [threshold, greatestThreshold, leastThreshold]
  omega

/-- Brings a distance into the range of a digit. The second part counts steps of `base`. -/
def shrink (delta position : Nat) : Nat × Nat :=
  if (base - leastThreshold) * greatestThreshold / 2 < delta then
    shrink (delta / (base - leastThreshold)) (position + base)
  else (delta, position)
termination_by delta
decreasing_by
  rename_i h
  have pos : 0 < delta := by simp only [base, leastThreshold, greatestThreshold] at h; omega
  exact Nat.div_lt_self pos (by decide)

def adapt (delta length : Nat) (first : Bool) : Nat :=
  let halved := if first then delta / damp else delta / 2
  let (rest, position) := shrink (halved + halved / length) 0
  position + (base - leastThreshold + 1) * rest / (rest + skew)

def numeral (bias position delta : Nat) : List Char :=
  let t := threshold position bias
  if delta < t then [digitChar delta]
  else
    digitChar (t + (delta - t) % (base - t)) ::
      numeral bias (position + base) ((delta - t) / (base - t))
termination_by delta
decreasing_by
  have := threshold_pos position bias
  exact Nat.lt_of_le_of_lt (Nat.div_le_self _ _) (by omega)

/-- Reads a numeral: its value, each digit times its weight, and what follows. -/
def readNumeral? (bias position weight : Nat) : List Char → Option (Nat × List Char)
  | [] => none
  | c :: cs =>
    (digit? c).bind fun d =>
      let t := threshold position bias
      if d < t then some (d * weight, cs)
      else
        (readNumeral? bias (position + base) (weight * (base - t)) cs).map
          fun (value, rest) => (d * weight + value, rest)

theorem readNumeral?_length {bias position weight : Nat} {cs rest : List Char} {value : Nat}
    (h : readNumeral? bias position weight cs = some (value, rest)) :
    rest.length < cs.length := by
  induction cs generalizing position weight value with
  | nil => simp [readNumeral?] at h
  | cons c cs ih =>
    simp only [readNumeral?, Option.bind_eq_some_iff] at h
    obtain ⟨d, -, h⟩ := h
    split at h
    · simp only [Option.some.injEq, Prod.mk.injEq] at h
      simp [h.2]
    · simp only [Option.map_eq_some_iff, Prod.mk.injEq, Prod.exists] at h
      obtain ⟨value', rest', h, -, rfl⟩ := h
      exact Nat.lt_succ_of_lt (ih h)

/-- What has been written of a text, while its code points are gone through. -/
structure Writer where
  /-- The distance since the last insertion. -/
  delta : Nat
  bias : Nat
  /-- The number of code points that are written. -/
  written : Nat
  /-- The numerals so far. -/
  numerals : List Char

/-- Goes past one code point of the text, while occurrences of `m` are inserted. -/
def Writer.pass (basic m : Nat) (w : Writer) (n : Nat) : Writer :=
  if n < m then { w with delta := w.delta + 1 }
  else if n = m then
    { delta := 0
      bias := adapt w.delta (w.written + 1) (w.written == basic)
      written := w.written + 1
      numerals := w.numerals ++ numeral w.bias base w.delta }
  else w

/-- Inserts the occurrences of one code point after another; `next` is the one after the last. -/
def insertAll (text : List Nat) (basic next : Nat) (w : Writer) : List Nat → Writer
  | [] => w
  | m :: ms =>
    let reached := { w with delta := w.delta + (m - next) * (w.written + 1) }
    let passed := text.foldl (·.pass basic m) reached
    insertAll text basic (m + 1) { passed with delta := passed.delta + 1 } ms

def ascending (ns : List Nat) : List Nat :=
  (ns.mergeSort).eraseReps

def encode (text : List Char) : List Char :=
  let codes := text.map Char.toNat
  let basic := text.filter fun c => c.toNat < firstInserted
  let others := ascending (codes.filter (firstInserted ≤ ·))
  let writer := insertAll codes basic.length firstInserted ⟨0, firstBias, basic.length, []⟩ others
  basic ++ (if basic.isEmpty then [] else ['-']) ++ writer.numerals

/-- Reads the insertions into a text. `place` is the place after the last insertion, `code` the code
point that was inserted there. -/
def insertions? (text : List Nat) (code place bias : Nat) (first : Bool) (cs : List Char) :
    Option (List Nat) :=
  if cs.isEmpty then some text
  else
    match h : readNumeral? bias base 1 cs with
    | none => none
    | some (value, rest) =>
      let length := text.length + 1
      let code' := code + (place + value) / length
      let place' := (place + value) % length
      if code'.isValidChar then
        insertions? (text.take place' ++ code' :: text.drop place') code' (place' + 1)
          (adapt value length first) false rest
      else none
termination_by cs.length
decreasing_by exact readNumeral?_length h

/-- Cuts off the ASCII characters of a text, which end at the last hyphen. -/
def cutBasic (cs : List Char) : List Char × List Char :=
  let numerals := (cs.reverse.takeWhile (· != '-')).reverse
  let basic := (cs.reverse.dropWhile (· != '-')).reverse.dropLast
  if basic.isEmpty then ([], cs) else (basic, numerals)

/-- The text that is written in Punycode, if it is. -/
def decode? (cs : List Char) : Option (List Char) :=
  let (basic, numerals) := cutBasic cs
  (insertions? (basic.map Char.toNat) firstInserted 0 firstBias true numerals).map
    (·.map Char.ofNat)

end Blocklist.Punycode
