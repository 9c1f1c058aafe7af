import Blocklist.Pattern.CharSet
/-!
The grammar of patterns as trees: one constructor for each form that a pattern is written in. What a
tree matches depends on the flags in force, and is said elsewhere.
-/

namespace Blocklist.Pattern

/-- A switch that changes how a pattern is read. -/
inductive Flag where
  | ignoreCase
  | multiLine
  | dotMatchesNewline
  | swapGreed
  | unicode
  | crlf
  | verbose
deriving DecidableEq, Repr

/-- Flags that are switched on (`true`) or off (`false`). -/
abbrev FlagChange := List (Flag × Bool)

/-- A character in a pattern. -/
structure Literal where
  char : Char
  /-- Written with `\x` and two digits, which stands for a byte where patterns match bytes. -/
  isByte : Bool
deriving DecidableEq, Repr

/-- The classes written with a backslash and a letter. -/
inductive ShortClass where
  | digit
  | space
  | word
deriving DecidableEq, Repr

/-- A condition on a position, as it is written. -/
inductive Assertion where
  | startLine
  | endLine
  | startText
  | endText
  | wordBoundary
  | notWordBoundary
  | wordStart
  | wordEnd
  | wordStartHalf
  | wordEndHalf
deriving DecidableEq, Repr

/-- How often a repeated part occurs. -/
inductive Count where
  | zeroOrOne
  | zeroOrMore
  | oneOrMore
  | exactly (n : Nat)
  | atLeast (n : Nat)
  | between (lo hi : Nat)
deriving DecidableEq, Repr

def Count.isNumeric : Count → Bool
  | .exactly _ | .atLeast _ | .between _ _ => true
  | _ => false

/-- An operation on two bracketed sets. -/
inductive SetOp where
  | intersection
  | difference
  | symmetricDifference
deriving DecidableEq, Repr

/-- What stands between brackets. -/
inductive ClassSet where
  | empty
  | literal (l : Literal)
  | range (first last : Literal)
  | ascii (ranges : List (Char × Char)) (negated : Bool)
  | short (c : ShortClass) (negated : Bool)
  | property (p : Property) (negated : Bool)
  | bracketed (negated : Bool) (s : ClassSet)
  /-- Two neighbouring items; a longer run nests to the right. -/
  | union (s t : ClassSet)
  | operation (op : SetOp) (s t : ClassSet)
deriving DecidableEq, Repr

/-- What a group is for, beside keeping its parts together. -/
inductive GroupKind where
  /-- What the group matches can be asked for. -/
  | capture
  /-- Some flags hold in the group. -/
  | flags (change : FlagChange)
deriving DecidableEq, Repr

/-- The flags that are switched for a group. -/
def GroupKind.change : GroupKind → FlagChange
  | capture => []
  | flags change => change

/-- A pattern as it is written. -/
inductive Ast where
  | empty
  | flags (change : FlagChange)
  | literal (l : Literal)
  | dot
  | assertion (a : Assertion)
  | short (c : ShortClass) (negated : Bool)
  | property (p : Property) (negated : Bool)
  | bracketed (negated : Bool) (s : ClassSet)
  | repetition (e : Ast) (count : Count)
  | group (kind : GroupKind) (e : Ast)
  /-- Two neighbouring parts; a longer run nests to the right. -/
  | concat (e f : Ast)
  /-- Two alternatives; a longer run nests to the right. -/
  | alternation (e f : Ast)
deriving DecidableEq, Repr

namespace ClassSet

def ofItems : List ClassSet → ClassSet
  | [] => empty
  | [s] => s
  | s :: ss => union s (ofItems ss)

mutual

/-- How deep sets are nested in a set. A run of items counts once. -/
def depth : ClassSet → Nat
  | bracketed _ s => s.depth + 1
  | union s t => max s.depth t.runDepth + 1
  | operation _ s t => max s.depth t.depth + 1
  | _ => 0

def runDepth : ClassSet → Nat
  | union s t => max s.depth t.runDepth
  | bracketed _ s => s.depth + 1
  | operation _ s t => max s.depth t.depth + 1
  | _ => 0

end

end ClassSet

namespace Ast

def ofParts : List Ast → Ast
  | [] => empty
  | [e] => e
  | e :: es => concat e (ofParts es)

/-- A part with some counts on it, the first one innermost. -/
def repeated (e : Ast) (counts : List Count) : Ast := counts.foldl repetition e

def ofAlternatives : List Ast → Ast
  | [] => empty
  | [e] => e
  | e :: es => alternation e (ofAlternatives es)

mutual

/-- How deep parts are nested in a pattern. A run of parts or of alternatives counts once. -/
def depth : Ast → Nat
  | bracketed _ s => s.depth + 1
  | repetition e _ => e.depth + 1
  | group _ e => e.depth + 1
  | concat e f => max e.depth f.concatDepth + 1
  | alternation e f => max e.depth f.alternationDepth + 1
  | _ => 0

def concatDepth : Ast → Nat
  | concat e f => max e.depth f.concatDepth
  | bracketed _ s => s.depth + 1
  | repetition e _ => e.depth + 1
  | group _ e => e.depth + 1
  | alternation e f => max e.depth f.alternationDepth + 1
  | _ => 0

def alternationDepth : Ast → Nat
  | alternation e f => max e.depth f.alternationDepth
  | bracketed _ s => s.depth + 1
  | repetition e _ => e.depth + 1
  | group _ e => e.depth + 1
  | concat e f => max e.depth f.concatDepth + 1
  | _ => 0

end

def hasAlternation : Ast → Bool
  | alternation _ _ => true
  | repetition e _ => e.hasAlternation
  | group _ e => e.hasAlternation
  | concat e f => e.hasAlternation || f.hasAlternation
  | _ => false

def hasNumericCount : Ast → Bool
  | repetition e count => count.isNumeric || e.hasNumericCount
  | group _ e => e.hasNumericCount
  | concat e f => e.hasNumericCount || f.hasNumericCount
  | alternation e f => e.hasNumericCount || f.hasNumericCount
  | _ => false

end Ast

end Blocklist.Pattern
