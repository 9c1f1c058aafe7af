import Blocklist.Pattern.CharSet
/-!
The meaning of patterns: expressions whose flags are resolved, and the relation between the places
in a text where an expression starts and ends. Main definition: `Matches`.
-/

namespace Blocklist.Pattern

/-- A condition on a position between characters. -/
inductive Look where
  | textStart
  | textEnd
  | startLine
  | endLine
  | startLineCrlf
  | endLineCrlf
  | boundary (unicode : Bool)
  | notBoundary (unicode : Bool)
  | wordStart (unicode : Bool)
  | wordEnd (unicode : Bool)
  | wordStartHalf (unicode : Bool)
  | wordEndHalf (unicode : Bool)
deriving DecidableEq, Repr

namespace Look

def isWordChar (unicode : Bool) (c? : Option Char) : Bool :=
  c?.any fun c => if unicode then Unicode.isWord c.toNat else Unicode.isAsciiWord c.toNat

/-- Whether a condition holds between two characters; at an end of the text there is none. -/
def holds (l : Look) (before after : Option Char) : Bool :=
  match l with
  | textStart => before.isNone
  | textEnd => after.isNone
  | startLine => before.isNone || before == some '\n'
  | endLine => after.isNone || after == some '\n'
  | startLineCrlf =>
    before.isNone || before == some '\n' || (before == some '\r' && after != some '\n')
  | endLineCrlf =>
    after.isNone || after == some '\r' || (after == some '\n' && before != some '\r')
  | boundary u => isWordChar u before != isWordChar u after
  | notBoundary u => isWordChar u before == isWordChar u after
  | wordStart u => !isWordChar u before && isWordChar u after
  | wordEnd u => isWordChar u before && !isWordChar u after
  | wordStartHalf u => !isWordChar u before
  | wordEndHalf u => !isWordChar u after

end Look

/-- An expression over sets of characters and conditions on positions. -/
inductive Expr where
  | empty
  | set (s : CharSet)
  | look (l : Look)
  | seq (e f : Expr)
  | alt (e f : Expr)
  /-- At least `min` occurrences, and no more than `max` if that is given. -/
  | times (e : Expr) (min : Nat) (max : Option Nat)
deriving DecidableEq, Repr

/-- `Matches cs e i j` says that in the text `cs` an occurrence of `e` starts at `i` and ends at
`j`. -/
inductive Matches (cs : Array Char) : Expr → Nat → Nat → Prop where
  | empty (i : Nat) : Matches cs .empty i i
  | set {s : CharSet} {i : Nat} (h : i < cs.size) (hs : cs[i] ∈ s) :
      Matches cs (.set s) i (i + 1)
  | look {l : Look} {i : Nat}
      (h : l.holds (if i = 0 then none else cs[i - 1]?) cs[i]?) : Matches cs (.look l) i i
  | seq {e f : Expr} {i j k : Nat} (he : Matches cs e i j) (hf : Matches cs f j k) :
      Matches cs (.seq e f) i k
  | altLeft {e f : Expr} {i j : Nat} (h : Matches cs e i j) : Matches cs (.alt e f) i j
  | altRight {e f : Expr} {i j : Nat} (h : Matches cs f i j) : Matches cs (.alt e f) i j
  /-- No more occurrences are needed. -/
  | timesDone {e : Expr} {i : Nat} (max : Option Nat) : Matches cs (.times e 0 max) i i
  /-- One occurrence, after which one fewer is needed and one fewer allowed. -/
  | timesMore {e : Expr} {min : Nat} {max : Option Nat} {i j k : Nat} (hmax : max ≠ some 0)
      (he : Matches cs e i j) (h : Matches cs (.times e (min - 1) (max.map (· - 1))) j k) :
      Matches cs (.times e min max) i k

def Occurs (cs : Array Char) (e : Expr) : Prop :=
  ∃ i j, i ≤ cs.size ∧ Matches cs e i j

end Blocklist.Pattern
