import Blocklist.Json.Node
import Blocklist.Text.Utf8
import Blocklist.Unicode.Table
/-!
The strings and numbers of JSON texts.
-/

namespace Blocklist.Json

open Text

def isBlank (c : Char) : Bool :=
  c == ' ' || c == '\t' || c == '\n' || c == '\r'

def skipBlanks (cs : List Char) : List Char :=
  cs.dropWhile isBlank

/-! ## Strings -/

/-- What is found behind the quotation mark that opens a string. -/
inductive ScannedString where
  /-- The string ends. It may still be no text; what follows it is known in any case. -/
  | closed (text : Except Flaw (List Char)) (rest : List Char)
  /-- The string does not end. -/
  | cut (reading skipping : Flaw)

/-- Puts a character in front of a string. -/
def ScannedString.addChar (c : Char) : ScannedString → ScannedString
  | closed text rest => closed (text.map (c :: ·)) rest
  | cut reading skipping => cut reading skipping

/-- Puts something in front of a string that only keeps it from being read. -/
def ScannedString.addFlaw (f : Flaw) : ScannedString → ScannedString
  | closed _ rest => closed (.error f) rest
  | cut _ skipping => cut f skipping

def fourDigits? (a b c d : Char) : Option Nat := do
  let a ← Unicode.hexDigit? a
  let b ← Unicode.hexDigit? b
  let c ← Unicode.hexDigit? c
  let d ← Unicode.hexDigit? d
  return ((a * 16 + b) * 16 + c) * 16 + d

def digitsFlaw (rest : List Char) : Flaw :=
  if utf8Length rest < 4 then .incomplete else .malformed

def isLeading (n : Nat) : Bool := 0xd800 ≤ n && n ≤ 0xdbff

def isTrailing (n : Nat) : Bool := 0xdc00 ≤ n && n ≤ 0xdfff

/-- The character that a pair of code units stands for. -/
def paired (leading trailing : Nat) : Char :=
  Char.ofNat (0x10000 + (leading - 0xd800) * 0x400 + (trailing - 0xdc00))

/-- The character that an escape of one letter stands for. -/
def escaped? : Char → Option Char
  | '"' => some '"'
  | '\\' => some '\\'
  | '/' => some '/'
  | 'b' => some '\x08'
  | 'f' => some '\x0c'
  | 'n' => some '\n'
  | 'r' => some '\r'
  | 't' => some '\t'
  | _ => none

/-- What is found behind something other than the second code unit of a pair. It is a flaw if the
first one stands in front. -/
def ScannedString.behind (lead : Option Nat) (s : ScannedString) : ScannedString :=
  if lead.isSome then s.addFlaw .malformed else s

/-- Scans a string behind the quotation mark that opens it. `lead` is the first code unit of a pair,
if one stands directly in front. -/
def scanString (lead : Option Nat) : List Char → ScannedString
  | [] => .cut .incomplete .incomplete
  | ['\\'] => .cut .incomplete .incomplete
  | '\\' :: 'u' :: a :: b :: c :: d :: rest =>
    match fourDigits? a b c d with
    | none =>
      let f := digitsFlaw (a :: b :: c :: d :: rest)
      .cut f f
    | some n =>
      match lead with
      | some m =>
        if isTrailing n then (scanString none rest).addChar (paired m n)
        else (scanString none rest).addFlaw .malformed
      | none =>
        if isTrailing n then (scanString none rest).addFlaw .malformed
        else if isLeading n then scanString (some n) rest
        else (scanString none rest).addChar (Char.ofNat n)
  | '\\' :: c :: rest =>
    if c == 'u' then
      let f := digitsFlaw rest
      .cut f f
    else
      match escaped? c with
      | some e => ((scanString none rest).addChar e).behind lead
      | none => .cut .malformed .malformed
  | '"' :: rest => (ScannedString.closed (.ok []) rest).behind lead
  | c :: rest =>
    if c < ' ' then .cut .malformed .malformed
    else ((scanString none rest).addChar c).behind lead

/-! ## Numbers -/

def maxNatural : Nat := 1 <<< 64 - 1

def maxExponent : Nat := 1 <<< 31 - 1

def digitValue (c : Char) : Nat := c.toNat - '0'.toNat

/-- Adds decimal digits to a number, as long as it does not exceed a limit. The digits that are left
come with it. -/
def addDigits (limit : Nat) (n : Nat) : List Char → Nat × List Char
  | [] => (n, [])
  | c :: cs =>
    if n * 10 + digitValue c ≤ limit then addDigits limit (n * 10 + digitValue c) cs
    else (n, c :: cs)

/-- The parts of a numeral. -/
structure Numeral where
  negative : Bool
  /-- The digits in front of the point. -/
  whole : List Char
  /-- The digits behind the point, if there is one. -/
  fraction : Option (List Char)
  /-- The sign and the digits of the exponent, if there is one. -/
  exponent : Option (Bool × List Char)
deriving DecidableEq

/-- The greatest power of ten that a number is scaled by at once. -/
def maxPower : Nat := 308

def powerOfTen (k : Nat) : Binary64 := (Binary64.ofNat? (Nat.pow 10 k)).getD .zero

/-- A number times a power of ten. Large negative powers are applied in steps, and each step rounds.
-/
def scale? (x : Binary64) (power : Int) : Option Binary64 :=
  if power.natAbs ≤ maxPower then
    if 0 ≤ power then x.mul? (powerOfTen power.natAbs) else x.div? (powerOfTen power.natAbs)
  else if x.isZero then some x
  else if 0 ≤ power then none
  else (x.div? (powerOfTen maxPower)).bind (scale? · (power + maxPower))
termination_by power.natAbs
decreasing_by simp only [maxPower] at *; omega

def clampPower (power : Int) : Int :=
  max (-(maxExponent : Int) - 1) (min maxExponent power)

/-- The number that a numeral with a point, an exponent or many digits stands for, if it is not too
great. The digits that fit into 64 bits make up the significand. Of the others, those in front of
the point only count as places, and those behind it do not count. -/
def Numeral.real? (m : Numeral) : Option Binary64 :=
  let (n, dropped) := addDigits maxNatural 0 m.whole
  let (significand, ignored) := addDigits maxNatural n (m.fraction.getD [])
  let places : Int := dropped.length - ((m.fraction.getD []).length - ignored.length : Nat)
  let sign (x : Binary64) : Binary64 := if m.negative then x.neg else x
  let rounded := (Binary64.ofNat? significand).getD .zero
  match m.exponent with
  | none => (scale? rounded places).map sign
  | some (negative, digits) =>
    match addDigits maxExponent 0 digits with
    | (e, []) =>
      (scale? rounded (clampPower (if negative then places - e else places + e))).map sign
    | (_, _ :: _) => if significand = 0 || negative then some (sign .zero) else none

/-- The number that a numeral stands for, if it is not too great. -/
def Numeral.number? (m : Numeral) : Option Number :=
  match m.fraction, m.exponent, addDigits maxNatural 0 m.whole with
  | none, none, (n, []) =>
    if !m.negative then some (.natural n)
    else if 0 < n && n ≤ 1 <<< 63 then some (.negative n)
    else some (.real (Binary64.ofNat? n |>.getD .zero).neg)
  | _, _, _ => m.real?.map .real

/-- The fault of a numeral that breaks off or goes on with a wrong character. -/
def numeralFault (rest : List Char) : Fault :=
  if rest.isEmpty then ⟨.incomplete, .malformed, .malformed⟩ else .all .malformed

/-- Scans the exponent of a numeral, if it has one. -/
def scanExponent (cs : List Char) : Except Fault (Option (Bool × List Char) × List Char) :=
  match cs with
  | c :: cs =>
    if c == 'e' || c == 'E' then
      let (negative, cs) :=
        match cs with
        | '-' :: cs => (true, cs)
        | '+' :: cs => (false, cs)
        | _ => (false, cs)
      let digits := cs.takeWhile Char.isDigit
      if digits.isEmpty then .error (numeralFault cs)
      else .ok (some (negative, digits), cs.dropWhile Char.isDigit)
    else .ok (none, c :: cs)
  | [] => .ok (none, [])

/-- Scans the fraction of a numeral, if it has one. -/
def scanFraction (cs : List Char) : Except Fault (Option (List Char) × List Char) :=
  match cs with
  | '.' :: cs =>
    let digits := cs.takeWhile Char.isDigit
    if digits.isEmpty then .error (numeralFault cs)
    else .ok (some digits, cs.dropWhile Char.isDigit)
  | _ => .ok (none, cs)

def scanNumeral (negative : Bool) (cs : List Char) : Except Fault (Numeral × List Char) := do
  let whole := cs.takeWhile Char.isDigit
  let rest := cs.dropWhile Char.isDigit
  if whole.isEmpty then throw (numeralFault cs)
  if whole.head? == some '0' && 1 < whole.length then throw (.all .malformed)
  let (fraction, rest) ← scanFraction rest
  let (exponent, rest) ← scanExponent rest
  return (⟨negative, whole, fraction, exponent⟩, rest)

def scanNumber (negative : Bool) (cs : List Char) : Node × List Char :=
  match scanNumeral negative cs with
  | .ok (m, rest) => ((m.number?).elim (.unreadable .malformed) .number, rest)
  | .error f => (.broken f, [])

end Blocklist.Json
