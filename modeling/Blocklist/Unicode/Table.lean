/-!
Tables over the code space, packed into texts. A number in a packed table is a hexadecimal numeral,
and blanks or line breaks stand between the items.
-/

namespace Blocklist.Unicode

def lastCodePoint : Nat := 0x10ffff

def hexDigit? (c : Char) : Option Nat :=
  if '0' ≤ c && c ≤ '9' then some (c.toNat - 0x30)
  else if 'a' ≤ c && c ≤ 'f' then some (c.toNat - 0x57)
  else if 'A' ≤ c && c ≤ 'F' then some (c.toNat - 0x37)
  else none

/-- The number that a hexadecimal numeral stands for; other characters in it are passed over. -/
def numeral (s : String) : Nat :=
  s.toList.foldl (fun n c => (hexDigit? c).elim n (16 * n + ·)) 0

def items (s : String) : List String :=
  ((s.map fun c => if c = '\n' then ' ' else c).splitOn " ").filter (!·.isEmpty)

/-- The numbers that the items of a text stand for. -/
def numerals (s : String) : List Nat :=
  (items s).map numeral

/-- The first index between `lo` and `hi` whose item fails a test, if the items that pass it come
first; found by halving the interval. -/
def bisect {α : Type u} (xs : Array α) (p : α → Bool) (lo hi : Nat) : Nat :=
  if lo < hi then
    let mid := (lo + hi) / 2
    match xs[mid]? with
    | some x => if p x then bisect xs p (mid + 1) hi else bisect xs p lo mid
    | none => lo
  else lo
termination_by hi - lo

/-- A set of code points, as ranges in ascending order with both ends included. -/
structure RangeTable where
  ranges : Array (Nat × Nat)
deriving Inhabited

namespace RangeTable

/-- Ranges from the gap in front of each range and its length, in turn. -/
def unpack (start : Nat) : List Nat → List (Nat × Nat)
  | gap :: length :: rest =>
    (start + gap, start + gap + length - 1) :: unpack (start + gap + length) rest
  | _ => []

/-- Reads a packed table: for each range the gap in front of it and its length. -/
def ofPacked (s : String) : RangeTable :=
  ⟨(unpack 0 (numerals s)).toArray⟩

def contains (t : RangeTable) (n : Nat) : Bool :=
  let i := bisect t.ranges (fun r => r.1 ≤ n) 0 t.ranges.size
  i != 0 && (t.ranges[i - 1]?).any fun r => n ≤ r.2

end RangeTable

/-- A label for every code point, as the starts of runs with one label, in ascending order. -/
structure RunTable where
  runs : Array (Nat × String)
deriving Inhabited

namespace RunTable

def unpack (start : Nat) : List String → List (Nat × String)
  | length :: label :: rest => (start, label) :: unpack (start + numeral length) rest
  | _ => []

/-- Reads a packed table: for each run its length and its label. -/
def ofPacked (s : String) : RunTable :=
  ⟨(unpack 0 (items s)).toArray⟩

def labelAt (t : RunTable) (n : Nat) : String :=
  let i := bisect t.runs (fun r => r.1 ≤ n) 0 t.runs.size
  (t.runs[i - 1]?).elim "" (·.2)

/-- How many stretches without a gap the code points make up whose labels pass a test. -/
def stretches (t : RunTable) (p : String → Bool) : Nat :=
  (t.runs.foldl
    (fun (count, inside) (_, label) => (if p label && !inside then count + 1 else count, p label))
    (0, false)).1

end RunTable

/-- Names that stand for others. -/
structure NameTable where
  names : List (String × String)
deriving Inhabited

namespace NameTable

/-- Reads a packed table: items of the form `name:meaning`. -/
def ofPacked (s : String) : NameTable :=
  ⟨(items s).filterMap fun item =>
    match item.splitOn ":" with
    | [name, meaning] => some (name, meaning)
    | _ => none⟩

def find? (t : NameTable) (name : String) : Option String :=
  t.names.lookup name

end NameTable

end Blocklist.Unicode
