import Blocklist.Pattern.Ast
import Blocklist.Pattern.Expr
/-!
From the tree of a pattern to its meaning. The flags in force resolve letter case, line ends and the
kind of classes. Where Unicode is switched off, patterns match bytes; a pattern that could then
match part of a character has no meaning.
-/

namespace Blocklist.Pattern

/-- The flags in force at a place in a pattern. -/
structure Mode where
  ignoreCase : Bool
  multiLine : Bool
  dotMatchesNewline : Bool
  crlf : Bool
  unicode : Bool
deriving DecidableEq, Repr

namespace Mode

/-- The mode at the start of a URL filter: letter case does not matter. -/
def filter : Mode := ⟨true, false, false, false, true⟩

/-- Switches a single flag. The flags that do not change the meaning of a tree are passed over. -/
def set (m : Mode) (flag : Flag) (on : Bool) : Mode :=
  match flag with
  | .ignoreCase => { m with ignoreCase := on }
  | .multiLine => { m with multiLine := on }
  | .dotMatchesNewline => { m with dotMatchesNewline := on }
  | .crlf => { m with crlf := on }
  | .unicode => { m with unicode := on }
  | .swapGreed | .verbose => m

def change (m : Mode) (flags : FlagChange) : Mode :=
  flags.foldl (fun m f => m.set f.1 f.2) m

/-- Adds what differs from a member in case alone, where letter case does not matter. -/
def fold (m : Mode) (s : CharSet) : CharSet :=
  if m.ignoreCase then if m.unicode then .foldCase s else .foldAsciiCase s else s

def negate (negated : Bool) (s : CharSet) : CharSet :=
  if negated then .compl s else s

def highBytes : List Nat := (List.range 0x80).map (· + 0x80)

/-- A set, unless it is matched against bytes and has one past ASCII. -/
def checked? (m : Mode) (s : CharSet) : Option CharSet :=
  if m.unicode || !highBytes.any s.contains then some s else none

end Mode

namespace ShortClass

def toSet (c : ShortClass) (unicode : Bool) : CharSet :=
  match c with
  | digit => if unicode then .property .digit else .ofRanges [('0', '9')]
  | space => if unicode then .property .space else .ofRanges [('\t', '\r'), (' ', ' ')]
  | word =>
    if unicode then .property .word else .ofRanges [('0', '9'), ('A', 'Z'), ('_', '_'), ('a', 'z')]

end ShortClass

namespace SetOp

def apply (op : SetOp) (s t : CharSet) : CharSet :=
  match op with
  | intersection => .inter s t
  | difference => .diff s t
  | symmetricDifference => .symmDiff s t

end SetOp

/-- Whether a literal can be a member of a set in a mode. Where bytes are matched, it is an ASCII
character. -/
def Literal.isSetMember (l : Literal) (m : Mode) : Bool :=
  m.unicode || l.char.toNat < 0x80

def ClassSet.toSet? (m : Mode) : ClassSet → Option CharSet
  | .empty => some .empty
  | .literal l => if l.isSetMember m then some (.char l.char) else none
  | .range l l' =>
    if l.isSetMember m && l'.isSetMember m then some (.range l.char.toNat l'.char.toNat) else none
  | .ascii ranges negated => m.checked? (Mode.negate negated (m.fold (.ofRanges ranges)))
  | .short c negated => m.checked? (Mode.negate negated (c.toSet m.unicode))
  | .property p negated =>
    if m.unicode then some (Mode.negate negated (m.fold (.property p))) else none
  | .bracketed negated s => do
    m.checked? (Mode.negate negated (m.fold (← s.toSet? m)))
  | .union s t => return .union (← s.toSet? m) (← t.toSet? m)
  | .operation op s t => return op.apply (m.fold (← s.toSet? m)) (m.fold (← t.toSet? m))

def Literal.toExpr? (l : Literal) (m : Mode) : Option Expr :=
  if !m.unicode && l.isByte && 0x80 ≤ l.char.toNat then none
  else some (.set (m.fold (.char l.char)))

def Mode.dot? (m : Mode) : Option Expr :=
  if !m.unicode then none
  else if m.dotMatchesNewline then some (.set .all)
  else if m.crlf then some (.set (.compl (.union (.char '\n') (.char '\r'))))
  else some (.set (.compl (.char '\n')))

def Assertion.toLook (a : Assertion) (m : Mode) : Look :=
  match a with
  | startLine => if m.multiLine then if m.crlf then .startLineCrlf else .startLine else .textStart
  | endLine => if m.multiLine then if m.crlf then .endLineCrlf else .endLine else .textEnd
  | startText => .textStart
  | endText => .textEnd
  | wordBoundary => .boundary m.unicode
  | notWordBoundary => .notBoundary m.unicode
  | wordStart => .wordStart m.unicode
  | wordEnd => .wordEnd m.unicode
  | wordStartHalf => .wordStartHalf m.unicode
  | wordEndHalf => .wordEndHalf m.unicode

/-- The least and the greatest number of occurrences. -/
def Count.bounds : Count → Nat × Option Nat
  | zeroOrOne => (0, some 1)
  | zeroOrMore => (0, none)
  | oneOrMore => (1, none)
  | exactly n => (n, some n)
  | atLeast n => (n, none)
  | between lo hi => (lo, some hi)

/-- The meaning of a tree in a mode, and the mode after it: a change of flags holds up to the end of
the group it stands in. -/
def Ast.toExpr? : Ast → Mode → Option (Expr × Mode)
  | .empty, m => some (.empty, m)
  | .flags change, m => some (.empty, m.change change)
  | .literal l, m => (l.toExpr? m).map (·, m)
  | .dot, m => m.dot?.map (·, m)
  | .assertion a, m => some (.look (a.toLook m), m)
  | .short c negated, m =>
    (m.checked? (Mode.negate negated (c.toSet m.unicode))).map (.set ·, m)
  | .property p negated, m =>
    if m.unicode then some (.set (Mode.negate negated (m.fold (.property p))), m) else none
  | .bracketed negated s, m => do
    let s ← s.toSet? m
    let s ← m.checked? (Mode.negate negated (m.fold s))
    return (.set s, m)
  | .repetition e count, m => do
    let (e, m) ← e.toExpr? m
    return (.times e count.bounds.1 count.bounds.2, m)
  | .group kind e, m => do
    let (e, _) ← e.toExpr? (m.change kind.change)
    return (e, m)
  | .concat e f, m => do
    let (e, m) ← e.toExpr? m
    let (f, m) ← f.toExpr? m
    return (.seq e f, m)
  | .alternation e f, m => do
    let (e, m) ← e.toExpr? m
    let (f, m) ← f.toExpr? m
    return (.alt e f, m)

end Blocklist.Pattern
