import Blocklist.Pattern.Expr
/-!
Searching a text for an expression. Sets of positions are numbers whose bits are the members, and an
expression maps the positions where it may start to those where it may end. No order of attempts is
involved, so the cost is bounded by the size of the text and the expression.
-/

namespace Blocklist.Pattern

/-- An expression over a fixed text: each set and each condition is replaced by its positions. -/
inductive Steps where
  | empty
  /-- Goes from each of these positions to the next one. -/
  | advance (positions : Nat)
  /-- Stays at each of these positions. -/
  | stay (positions : Nat)
  | seq (e f : Steps)
  | alt (e f : Steps)
  | times (e : Steps) (min : Nat) (max : Option Nat)

/-- The number whose bits are given, the lowest first. -/
def ofBits (bits : List Bool) : Nat :=
  bits.foldr (fun b n => 2 * n + b.toNat) 0

/-- The pairs of characters around each position of a text, from the first to the last. -/
def neighbours (before : Option Char) : List Char → List (Option Char × Option Char)
  | [] => [(before, none)]
  | c :: cs => (before, some c) :: neighbours (some c) cs

/-- Fixes the text that an expression is matched against. -/
def Expr.over (cs : List Char) : Expr → Steps
  | .empty => .empty
  | .set s => .advance (ofBits (cs.map fun c => s.contains c.toNat))
  | .look l => .stay (ofBits ((neighbours none cs).map fun (before, after) => l.holds before after))
  | .seq e f => .seq (e.over cs) (f.over cs)
  | .alt e f => .alt (e.over cs) (f.over cs)
  | .times e min max => .times (e.over cs) min max

/-- Applies a function again and again, until nothing changes or the count is used up. -/
def iterate (f : Nat → Nat) : Nat → Nat → Nat
  | 0, s => s
  | n + 1, s =>
    let t := f s
    if t = s then s else iterate f n t

namespace Steps

/-- The positions that can be reached from given ones; `bound` is the number of positions. -/
def reach (bound : Nat) : Steps → Nat → Nat
  | empty, s => s
  | advance positions, s => (s &&& positions) <<< 1
  | stay positions, s => s &&& positions
  | seq e f, s => f.reach bound (e.reach bound s)
  | alt e f, s => e.reach bound s ||| f.reach bound s
  | times e min max, s =>
    iterate (fun t => t ||| e.reach bound t) ((max.map (· - min)).getD bound)
      (iterate (e.reach bound) min s)

end Steps

/-- Whether an expression occurs anywhere in a text. -/
def Expr.occursIn (e : Expr) (cs : List Char) : Bool :=
  let positions := cs.length + 1
  (e.over cs).reach positions (1 <<< positions - 1) != 0

end Blocklist.Pattern
