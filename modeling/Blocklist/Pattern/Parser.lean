import Blocklist.Pattern.Ast
import Blocklist.Pattern.PropertyName
import Blocklist.Text.Blank
/-!
Reading patterns. `parse?` gives the tree of a pattern, and nothing for a text that is no pattern.
-/

namespace Blocklist.Pattern

open Text (isBlank)

def maxDepth : Nat := 250

/-- What is left of a pattern, and what the part before it has settled. -/
structure Source where
  rest : List Char
  /-- Whether blanks are passed over and `#` starts a comment. -/
  verbose : Bool
  /-- The names given to groups so far. -/
  groupNames : List String

namespace Source

def afterComment : List Char → List Char
  | [] => []
  | c :: cs => if c = '\n' then cs else afterComment cs

theorem length_afterComment_le (cs : List Char) : (afterComment cs).length ≤ cs.length := by
  induction cs with
  | nil => simp [afterComment]
  | cons c cs ih =>
    unfold afterComment
    split
    · simp
    · exact Nat.le_succ_of_le ih

def skipBlanks (cs : List Char) : List Char :=
  match cs with
  | [] => []
  | c :: rest =>
    if isBlank c then skipBlanks rest
    else if c = '#' then skipBlanks (afterComment rest)
    else cs
termination_by cs.length
decreasing_by
  · simp
  · exact Nat.lt_succ_of_le (length_afterComment_le rest)

def skip (src : Source) : Source :=
  if src.verbose then { src with rest := skipBlanks src.rest } else src

def goOn (src : Source) (rest : List Char) : Source := { src with rest }

def goOnSkipping (src : Source) (rest : List Char) : Source := (src.goOn rest).skip

end Source

/-! ### Characters written with a backslash -/

def isMeta (c : Char) : Bool :=
  "\\.+*?()|[]\x7b\x7d^$#&-~".toList.contains c

/-- Whether a backslash in front of a character makes it stand for itself. -/
def isEscapable (c : Char) : Bool :=
  isMeta c || (c.toNat < 0x80 && !c.isAlphanum && c != '<' && c != '>')

/-- The value of hexadecimal digits, if all characters are some and at most eight count. -/
def hexValue? (digits : List Char) : Option Nat :=
  digits.foldlM (fun n c => (Unicode.hexDigit? c).map (16 * n + ·)) 0

/-- The character of a code point; surrogates and numbers past the code space have none. -/
def charOf? (n : Nat) : Option Char :=
  if n < 0xd800 ∨ 0xe000 ≤ n ∧ n ≤ Unicode.lastCodePoint then some (Char.ofNat n) else none

def readHexDigits : Nat → Source → List Char → Option (Char × Source)
  | 0, src, digits => do
    let c ← charOf? (← hexValue? digits.reverse)
    return (c, src)
  | n + 1, src, digits =>
    match src.rest with
    | [] => none
    | c :: cs =>
      if (Unicode.hexDigit? c).isSome then readHexDigits n (src.goOnSkipping cs) (c :: digits)
      else none

def readHexBraced (fuel : Nat) (src : Source) (digits : List Char) : Option (Char × Source) :=
  match fuel, src.rest with
  | fuel + 1, c :: cs =>
    if c = '\x7d' then do
      guard (!digits.isEmpty)
      let c ← charOf? (← hexValue? digits.reverse)
      return (c, src.goOnSkipping cs)
    else if (Unicode.hexDigit? c).isSome then
      readHexBraced fuel (src.goOnSkipping cs) (c :: digits)
    else none
  | _, _ => none

/-- Reads the number of a character, after the letter that says how it is written. -/
def readHex (width : Nat) (src : Source) : Option (Literal × Source) :=
  match src.rest with
  | '\x7b' :: cs => do
    let src := src.goOnSkipping cs
    let (c, src) ← readHexBraced (src.rest.length + 1) src []
    return (⟨c, false⟩, src)
  | _ => do
    let (c, src) ← readHexDigits width src []
    return (⟨c, width == 2⟩, src)

def readBracedName (fuel : Nat) (src : Source) (name : List Char) :
    Option (List Char × Source) :=
  match fuel, src.rest with
  | fuel + 1, c :: cs =>
    if c = '\x7d' then some (name.reverse, src.goOn cs)
    else readBracedName fuel (src.goOnSkipping cs) (c :: name)
  | _, _ => none

/-- Cuts a text at the first place where another one stands. -/
def cutAt? (mark : List Char) : List Char → Option (List Char × List Char)
  | [] => if mark.isEmpty then some ([], []) else none
  | c :: cs =>
    if mark.isPrefixOf (c :: cs) then some ([], (c :: cs).drop mark.length)
    else (cutAt? mark cs).map fun (before, after) => (c :: before, after)

/-- The property that a text between braces names: alone, or with a value after `!=`, `:` or `=`. -/
def propertyOfQuery? (query : List Char) : Option Property :=
  match cutAt? ['!', '='] query with
  | some (name, value) => Property.ofNameAndValue? name value
  | none =>
    match cutAt? [':'] query with
    | some (name, value) => Property.ofNameAndValue? name value
    | none =>
      match cutAt? ['='] query with
      | some (name, value) => Property.ofNameAndValue? name value
      | none => Property.ofName? query

def readProperty (src : Source) : Option (Property × Source) :=
  match src.rest with
  | [] => none
  | '\x7b' :: cs => do
    let src := src.goOnSkipping cs
    let (query, src) ← readBracedName (src.rest.length + 1) src []
    return (← propertyOfQuery? query, src)
  | '\\' :: _ => none
  | c :: cs => do
    return (← Property.ofName? [c], src.goOnSkipping cs)

/-- The special boundary that a name in braces after `\b` stands for. -/
def wordAssertion? (name : String) : Option Assertion :=
  match name with
  | "start" => some .wordStart
  | "end" => some .wordEnd
  | "start-half" => some .wordStartHalf
  | "end-half" => some .wordEndHalf
  | _ => none

def isBoundaryNameChar (c : Char) : Bool :=
  c.isAlpha || c == '-'

def readBoundaryName (fuel : Nat) (src : Source) (name : List Char) : List Char × Source :=
  match fuel, src.rest with
  | fuel + 1, c :: cs =>
    if isBoundaryNameChar c then readBoundaryName fuel (src.goOnSkipping cs) (c :: name)
    else (name.reverse, src)
  | _, _ => (name.reverse, src)

/-- Reads what follows `\b`. A brace opens the name of a special boundary, unless no such name can
follow it: then the brace belongs to a repetition. -/
def readWordBoundary (src : Source) : Option (Assertion × Source) :=
  match src.rest with
  | '\x7b' :: cs =>
    let inner := src.goOnSkipping cs
    match inner.rest with
    | [] => none
    | c :: _ =>
      if isBoundaryNameChar c then
        let (name, after) := readBoundaryName (inner.rest.length + 1) inner []
        match after.rest with
        | '\x7d' :: cs => (wordAssertion? (String.ofList name)).map (·, src.goOn cs)
        | _ => none
      else some (.wordBoundary, src)
  | _ => some (.wordBoundary, src)

/-- What a backslash and the text after it stand for. -/
inductive Escape where
  | literal (l : Literal)
  | assertion (a : Assertion)
  | short (c : ShortClass) (negated : Bool)
  | property (p : Property) (negated : Bool)

/-- The control character that a letter after a backslash stands for. -/
def controlChar? (c : Char) : Option Char :=
  match c with
  | 'a' => some '\x07'
  | 'f' => some '\x0c'
  | 't' => some '\t'
  | 'n' => some '\n'
  | 'r' => some '\r'
  | 'v' => some '\x0b'
  | _ => none

/-- The class that a letter after a backslash stands for; a capital letter negates it. -/
def shortClass? (c : Char) : Option (ShortClass × Bool) :=
  match c with
  | 'd' => some (.digit, false)
  | 's' => some (.space, false)
  | 'w' => some (.word, false)
  | 'D' => some (.digit, true)
  | 'S' => some (.space, true)
  | 'W' => some (.word, true)
  | _ => none

/-- The condition that a character after a backslash stands for. -/
def escapedAssertion? (c : Char) : Option Assertion :=
  match c with
  | 'A' => some .startText
  | 'z' => some .endText
  | 'B' => some .notWordBoundary
  | '<' => some .wordStart
  | '>' => some .wordEnd
  | _ => none

def readEscape (src : Source) : Option (Escape × Source) :=
  match src.rest with
  | [] => none
  | c :: cs =>
    if c = 'x' then (readHex 2 (src.goOnSkipping cs)).map fun (l, src) => (.literal l, src)
    else if c = 'u' then (readHex 4 (src.goOnSkipping cs)).map fun (l, src) => (.literal l, src)
    else if c = 'U' then (readHex 8 (src.goOnSkipping cs)).map fun (l, src) => (.literal l, src)
    else if c = 'p' ∨ c = 'P' then
      (readProperty (src.goOnSkipping cs)).map fun (p, src) => (.property p (c == 'P'), src)
    else if c = 'b' then
      (readWordBoundary (src.goOn cs)).map fun (a, src) => (.assertion a, src)
    else if isEscapable c then some (.literal ⟨c, false⟩, src.goOn cs)
    else
      match shortClass? c, controlChar? c, escapedAssertion? c with
      | some (k, negated), _, _ => some (.short k negated, src.goOn cs)
      | _, some d, _ => some (.literal ⟨d, false⟩, src.goOn cs)
      | _, _, some a => some (.assertion a, src.goOn cs)
      | _, _, _ => none

/-! ### Sets between brackets -/

/-- The ranges of the classes that are named between `[:` and `:]`. -/
def asciiClass? (name : String) : Option (List (Char × Char)) :=
  match name with
  | "alnum" => some [('0', '9'), ('A', 'Z'), ('a', 'z')]
  | "alpha" => some [('A', 'Z'), ('a', 'z')]
  | "ascii" => some [('\x00', '\x7f')]
  | "blank" => some [('\t', '\t'), (' ', ' ')]
  | "cntrl" => some [('\x00', '\x1f'), ('\x7f', '\x7f')]
  | "digit" => some [('0', '9')]
  | "graph" => some [('!', '~')]
  | "lower" => some [('a', 'z')]
  | "print" => some [(' ', '~')]
  | "punct" => some [('!', '/'), (':', '@'), ('[', '\x60'), ('\x7b', '~')]
  | "space" => some [('\t', '\r'), (' ', ' ')]
  | "upper" => some [('A', 'Z')]
  | "word" => some [('0', '9'), ('A', 'Z'), ('_', '_'), ('a', 'z')]
  | "xdigit" => some [('0', '9'), ('A', 'F'), ('a', 'f')]
  | _ => none

/-- Reads a class named between `[:` and `:]`, after the opening bracket. Text of another form is no
such class, but no error either. -/
def readAsciiClass (cs : List Char) : Option (ClassSet × List Char) :=
  match cs with
  | ':' :: cs =>
    let (negated, cs) := match cs with
      | '^' :: cs => (true, cs)
      | _ => (false, cs)
    match cs.dropWhile (· != ':') with
    | ':' :: ']' :: after =>
      (asciiClass? (String.ofList (cs.takeWhile (· != ':')))).map fun ranges =>
        (.ascii ranges negated, after)
    | _ => none
  | _ => none

/-- A single member of a set or something that stands for several. -/
def readSetItem (src : Source) : Option (Escape × Source) :=
  match src.rest with
  | [] => none
  | '\\' :: cs => readEscape (src.goOn cs)
  | c :: cs => some (.literal ⟨c, false⟩, src.goOn cs)

/-- The set that an escape stands for. A condition on a position stands for none. -/
def Escape.toSet? : Escape → Option ClassSet
  | .literal l => some (.literal l)
  | .short c negated => some (.short c negated)
  | .property p negated => some (.property p negated)
  | .assertion _ => none

/-- The first character after a hyphen that counts. Between blanks, the first character of a comment
counts. -/
def peekPast (cs : List Char) (inComment : Bool) : Option Char :=
  match cs with
  | [] => none
  | c :: cs =>
    if isBlank c then peekPast cs inComment
    else if !inComment && c == '#' then peekPast cs true
    else some c

/-- The first character that counts, or the first of all if none does. -/
def Source.peek? (src : Source) (cs : List Char) : Option Char :=
  if src.verbose then (peekPast cs false).orElse fun _ => cs.head? else cs.head?

def readSetRange (src : Source) : Option (ClassSet × Source) := do
  let (first, src) ← readSetItem src
  let src := src.skip
  match src.rest with
  | [] => none
  | '-' :: cs =>
    if src.peek? cs = some ']' ∨ src.peek? cs = some '-' then return (← first.toSet?, src)
    else
      let src := src.goOnSkipping cs
      let (last, src) ← readSetItem src
      match first, last with
      | .literal l, .literal m =>
        guard (l.char ≤ m.char)
        return (.range l m, src)
      | _, _ => none
  | _ => return (← first.toSet?, src)

/-- Reads hyphens that stand for themselves at the start of a set. -/
def readHyphens (fuel : Nat) (src : Source) (items : List ClassSet) : List ClassSet × Source :=
  match fuel, src.rest with
  | fuel + 1, '-' :: cs =>
    readHyphens fuel (src.goOnSkipping cs) (.literal ⟨'-', false⟩ :: items)
  | _, _ => (items, src)

/-- Reads the start of a set, after its opening bracket: whether it is negated, and the hyphens and
the bracket that stand for themselves there. -/
def readSetStart (src : Source) : Option (Bool × List ClassSet × Source) := do
  let (negated, src) := match src.rest with
    | '^' :: cs => (true, src.goOnSkipping cs)
    | _ => (false, src)
  let (items, src) := readHyphens (src.rest.length + 1) src []
  match items, src.rest with
  | _, [] => none
  | [], ']' :: cs => return (negated, [.literal ⟨']', false⟩], src.goOnSkipping cs)
  | _, _ => return (negated, items, src)

/-- An operator and the set in front of it, if there is one. -/
abbrev PendingSet := Option (SetOp × ClassSet)

def closeSet (pending : PendingSet) (items : List ClassSet) : ClassSet :=
  let s := ClassSet.ofItems items.reverse
  match pending with
  | none => s
  | some (op, t) => .operation op t s

def setOp? : List Char → Option (SetOp × List Char)
  | '&' :: '&' :: cs => some (.intersection, cs)
  | '-' :: '-' :: cs => some (.difference, cs)
  | '~' :: '~' :: cs => some (.symmetricDifference, cs)
  | _ => none

def readSet : Nat → Source → PendingSet → List ClassSet → Option (ClassSet × Source)
  | 0, _, _, _ => none
  | fuel + 1, src, pending, items =>
    let src := src.skip
    match src.rest with
    | [] => none
    | ']' :: cs => some (closeSet pending items, src.goOn cs)
    | '[' :: cs =>
      match readAsciiClass cs with
      | some (s, rest) => readSet fuel (src.goOn rest) pending (s :: items)
      | none => do
        let (negated, first, inner) ← readSetStart (src.goOnSkipping cs)
        let (s, src) ← readSet fuel inner none first
        readSet fuel src pending (.bracketed negated s :: items)
    | rest =>
      match setOp? rest with
      | some (op, cs) => readSet fuel (src.goOn cs) (some (op, closeSet pending items)) []
      | none => do
        let (s, src) ← readSetRange src
        readSet fuel src pending (s :: items)

/-! ### Repetition -/

def readDigits (fuel : Nat) (src : Source) (digits : List Char) : List Char × Source :=
  match fuel, src.rest with
  | fuel + 1, c :: cs =>
    if c.isDigit then readDigits fuel (src.goOnSkipping cs) (c :: digits) else (digits.reverse, src)
  | _, _ => (digits.reverse, src)

def decimalValue? (digits : List Char) : Option Nat :=
  let n := digits.foldl (fun n c => 10 * n + (c.toNat - 0x30)) 0
  if digits.isEmpty || 0x100000000 ≤ n then none else some n

def readNumber (src : Source) : Option Nat × Source :=
  let start := src.goOn (src.rest.dropWhile isBlank)
  let (digits, after) := readDigits (start.rest.length + 1) start []
  (decimalValue? digits, (after.goOn (after.rest.dropWhile isBlank)).skip)

/-- Reads the end of a numeric repetition, with the mark that makes it lazy. -/
def readCountEnd (src : Source) : Option Source :=
  match src.rest with
  | '\x7d' :: cs =>
    let src := src.goOnSkipping cs
    match src.rest with
    | '?' :: cs => some (src.goOn cs)
    | _ => some src
  | _ => none

def readCount (src : Source) : Option (Count × Source) := do
  let (lo, src) := readNumber src.skip
  match src.rest with
  | [] => none
  | ',' :: cs =>
    let src := src.goOnSkipping cs
    match src.rest with
    | [] => none
    | '\x7d' :: _ => return (.atLeast (← lo), ← readCountEnd src)
    | _ =>
      let lo ← lo
      let (hi, src) := readNumber src
      let hi ← hi
      let src ← readCountEnd src
      guard (lo ≤ hi)
      return (.between lo hi, src)
  | _ => return (.exactly (← lo), ← readCountEnd src)

/-- Puts a count on the part that was read last. Nothing and a change of flags cannot be repeated.
-/
def repeatLast (parts : List Ast) (count : Count) : Option (List Ast) :=
  match parts with
  | [] => none
  | .flags _ :: _ => none
  | e :: es => some (.repetition e count :: es)

def Source.skipLazy (src : Source) (rest : List Char) : Source :=
  match rest with
  | '?' :: cs => src.goOn cs
  | _ => src.goOn rest

/-! ### Groups -/

def flag? (c : Char) : Option Flag :=
  match c with
  | 'i' => some .ignoreCase
  | 'm' => some .multiLine
  | 's' => some .dotMatchesNewline
  | 'U' => some .swapGreed
  | 'u' => some .unicode
  | 'R' => some .crlf
  | 'x' => some .verbose
  | _ => none

/-- Reads flags up to `:` or `)`. A flag occurs once, and so does the hyphen, which is not the last
character. -/
def readFlags (negated : Bool) (last : Char) (change : FlagChange) :
    List Char → Option (FlagChange × List Char)
  | [] => none
  | c :: cs =>
    if c = ':' ∨ c = ')' then
      if last = '-' then none else some (change.reverse, c :: cs)
    else if c = '-' then
      if negated then none else readFlags true '-' change cs
    else
      match flag? c with
      | none => none
      | some f =>
        if change.any (·.1 == f) then none else readFlags negated c ((f, !negated) :: change) cs

def isGroupNameChar (first : Bool) (c : Char) : Bool :=
  if first then c == '_' || Unicode.alphabetic.contains c.toNat
  else c == '_' || c == '.' || c == '[' || c == ']' || Unicode.isLetterOrNumber c.toNat

/-- Reads the name of a group up to `>`. A name is given once. -/
def readGroupName (src : Source) (cs : List Char) : Option Source :=
  let name := cs.takeWhile (· != '>')
  match name, cs.dropWhile (· != '>') with
  | first :: others, '>' :: after =>
    let text := String.ofList name
    if isGroupNameChar true first && others.all (isGroupNameChar false) &&
        !src.groupNames.contains text then
      some { src with rest := after, groupNames := text :: src.groupNames }
    else none
  | _, _ => none

/-- What an opening parenthesis starts. -/
inductive Opening where
  | flags (change : FlagChange)
  | group (kind : GroupKind)

/-- Reads what follows an opening parenthesis up to the contents of the group. Groups that look
ahead or behind are not patterns. -/
def readOpening (src : Source) : Option (Opening × Source) :=
  match src.rest with
  | '?' :: '=' :: _ | '?' :: '!' :: _ | '?' :: '<' :: '=' :: _ | '?' :: '<' :: '!' :: _ => none
  | '?' :: 'P' :: '<' :: cs | '?' :: '<' :: cs => (readGroupName src cs).map (.group .capture, ·)
  | '?' :: cs =>
    match readFlags false ':' [] cs with
    | some (change, ':' :: after) => some (.group (.flags change), src.goOn after)
    | some (change, ')' :: after) =>
      if change.isEmpty then none else some (.flags change, src.goOn after)
    | _ => none
  | _ => some (.group .capture, src)

def FlagChange.verbose (change : FlagChange) (now : Bool) : Bool :=
  ((change.find? (·.1 == .verbose)).map (·.2)).getD now

/-! ### Whole patterns -/

/-- The tree of what an escape stands for. -/
def Escape.toAst : Escape → Ast
  | .literal l => .literal l
  | .assertion a => .assertion a
  | .short c negated => .short c negated
  | .property p negated => .property p negated

/-- Reads alternatives up to a closing parenthesis or the end. Finished alternatives, and the parts
of the current one, are passed along with the last one first. -/
def readBody : Nat → Source → List Ast → List Ast → Option (Ast × Source)
  | 0, _, _, _ => none
  | fuel + 1, src, branches, parts =>
    let src := src.skip
    let finish := Ast.ofAlternatives (Ast.ofParts parts.reverse :: branches).reverse
    match src.rest with
    | [] => some (finish, src)
    | c :: cs =>
      match c with
      | ')' => some (finish, src)
      | '|' => readBody fuel (src.goOn cs) (Ast.ofParts parts.reverse :: branches) []
      | '(' => do
        let (opening, inner) ← readOpening (src.goOnSkipping cs)
        match opening with
        | .flags change =>
          readBody fuel { inner with verbose := FlagChange.verbose change src.verbose } branches
            (.flags change :: parts)
        | .group kind =>
          let verbose := FlagChange.verbose kind.change src.verbose
          let (e, after) ← readBody fuel { inner with verbose } [] []
          match after.rest with
          | ')' :: rest =>
            readBody fuel { after with rest, verbose := src.verbose } branches
              (.group kind e :: parts)
          | _ => none
      | '[' => do
        let (negated, first, inner) ← readSetStart (src.goOnSkipping cs)
        let (s, src) ← readSet fuel inner none first
        readBody fuel src branches (.bracketed negated s :: parts)
      | '?' => do readBody fuel (src.skipLazy cs) branches (← repeatLast parts .zeroOrOne)
      | '*' => do readBody fuel (src.skipLazy cs) branches (← repeatLast parts .zeroOrMore)
      | '+' => do readBody fuel (src.skipLazy cs) branches (← repeatLast parts .oneOrMore)
      | '\x7b' => do
        let (count, after) ← readCount (src.goOn cs)
        readBody fuel after branches (← repeatLast parts count)
      | '\\' => do
        let (escape, after) ← readEscape (src.goOn cs)
        readBody fuel after branches (escape.toAst :: parts)
      | '.' => readBody fuel (src.goOn cs) branches (.dot :: parts)
      | '^' => readBody fuel (src.goOn cs) branches (.assertion .startLine :: parts)
      | '$' => readBody fuel (src.goOn cs) branches (.assertion .endLine :: parts)
      | c => readBody fuel (src.goOn cs) branches (.literal ⟨c, false⟩ :: parts)

/-- The tree of a pattern, if the text is one and is not nested too deep. -/
def parse? (pattern : List Char) : Option Ast := do
  let (e, src) ← readBody (pattern.length + 1) ⟨pattern, false, []⟩ [] []
  guard src.rest.isEmpty
  guard (e.depth ≤ maxDepth)
  return e

end Blocklist.Pattern
