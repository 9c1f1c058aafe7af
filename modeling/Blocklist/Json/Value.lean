import Blocklist.Binary64
/-!
JSON values that are written. The members of an object stand in the order in which they are written.
-/

namespace Blocklist.Json

/-- A value to be written. -/
inductive Value where
  | null
  | bool (b : Bool)
  | natural (n : Nat)
  | real (x : Binary64)
  | string (s : String)
  | array (vs : List Value)
  | object (ms : List (String × Value))
deriving Inhabited

def Value.strings (ts : List String) : Value :=
  .array (ts.map .string)

def Value.ofOption (f : α → Value) : Option α → Value
  | some a => f a
  | none => .null

def Value.ofText? : Option String → Value :=
  .ofOption .string

def escapeChar (c : Char) : List Char :=
  match c with
  | '"' => ['\\', '"']
  | '\\' => ['\\', '\\']
  | '\x08' => ['\\', 'b']
  | '\x0c' => ['\\', 'f']
  | '\n' => ['\\', 'n']
  | '\r' => ['\\', 'r']
  | '\t' => ['\\', 't']
  | _ =>
    if c < ' ' then
      let digits := Nat.toDigits 16 c.toNat
      ['\\', 'u'] ++ List.replicate (4 - digits.length) '0' ++ digits
    else [c]

def quotedString (s : String) : String :=
  String.ofList ('"' :: s.toList.flatMap escapeChar ++ ['"'])

mutual

def Value.compact : Value → String
  | .null => "null"
  | .bool b => toString b
  | .natural n => toString n
  | .real x => x.toText
  | .string s => quotedString s
  | .array vs => "[" ++ ",".intercalate (compactElements vs) ++ "]"
  | .object ms => "\x7b" ++ ",".intercalate (compactMembers ms) ++ "\x7d"

def compactElements : List Value → List String
  | [] => []
  | v :: vs => v.compact :: compactElements vs

def compactMembers : List (String × Value) → List String
  | [] => []
  | (k, v) :: ms => (quotedString k ++ ":" ++ v.compact) :: compactMembers ms

end

/-- A new line with a given number of steps in front. -/
def lineBreak (depth : Nat) : String :=
  String.ofList ('\n' :: List.replicate (2 * depth) ' ')

def block (opening closing : String) (depth : Nat) (items : List String) : String :=
  if items.isEmpty then opening ++ closing
  else
    opening ++ lineBreak (depth + 1) ++ ("," ++ lineBreak (depth + 1)).intercalate items ++
      lineBreak depth ++ closing

mutual

/-- Writes a value with one element or member a line. `depth` is the number of steps in front of its
last line. -/
def Value.prettyAt (depth : Nat) : Value → String
  | .array vs => block "[" "]" depth (prettyElements (depth + 1) vs)
  | .object ms => block "\x7b" "\x7d" depth (prettyMembers (depth + 1) ms)
  | .null => "null"
  | .bool b => toString b
  | .natural n => toString n
  | .real x => x.toText
  | .string s => quotedString s

def prettyElements (depth : Nat) : List Value → List String
  | [] => []
  | v :: vs => v.prettyAt depth :: prettyElements depth vs

def prettyMembers (depth : Nat) : List (String × Value) → List String
  | [] => []
  | (k, v) :: ms => (quotedString k ++ ": " ++ v.prettyAt depth) :: prettyMembers depth ms

end

def Value.pretty (v : Value) : String :=
  v.prettyAt 0

end Blocklist.Json
