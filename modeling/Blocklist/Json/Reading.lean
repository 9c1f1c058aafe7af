import Blocklist.Json.Scan
/-!
Reading JSON texts into trees. The fuel is the length of the text: every step takes a character
away.
-/

namespace Blocklist.Json

def readLiteral (value : Node) : List Char → List Char → Node × List Char
  | [], cs => (value, cs)
  | _ :: _, [] => (.broken ⟨.incomplete, .incomplete, .malformed⟩, [])
  | l :: ls, c :: cs =>
    if c = l then readLiteral value ls cs else (.broken (.all .malformed), [])

/-- Reads a string behind the quotation mark that opens it. -/
def readString (cs : List Char) : Node × List Char :=
  match scanString none cs with
  | .closed (.ok text) rest => (.string (String.ofList text), rest)
  | .closed (.error f) rest => (.unreadable f, rest)
  | .cut reading skipping => (.broken ⟨reading, skipping, reading⟩, [])

/-- The flaw of a text that goes on with a wrong character or not at all. -/
def flawAt (cs : List Char) : Flaw :=
  if cs.isEmpty then .incomplete else .malformed

mutual

def readValue : Nat → List Char → Node × List Char
  | 0, _ => (.broken (.all .incomplete), [])
  | fuel + 1, cs =>
    match skipBlanks cs with
    | 'n' :: cs => readLiteral .null ['u', 'l', 'l'] cs
    | 't' :: cs => readLiteral (.bool true) ['r', 'u', 'e'] cs
    | 'f' :: cs => readLiteral (.bool false) ['a', 'l', 's', 'e'] cs
    | '-' :: cs => scanNumber true cs
    | '"' :: cs => readString cs
    | '[' :: cs =>
      match skipBlanks cs with
      | ']' :: rest => (.array .close, rest)
      | [] => (.array (.broken .incomplete), [])
      | cs =>
        let (e, rest) := readValue fuel cs
        let (es, rest) := readMoreElements fuel rest
        (.array (.more e es), rest)
    | '\x7b' :: cs =>
      match skipBlanks cs with
      | '\x7d' :: rest => (.object .close, rest)
      | [] => (.object (.broken false .incomplete), [])
      | '"' :: cs =>
        let (ms, rest) := readMember fuel cs
        (.object ms, rest)
      | cs => (.object (.stray (readValue fuel cs).1), [])
    | c :: cs => if c.isDigit then scanNumber false (c :: cs) else (.broken (.all .malformed), [])
    | [] => (.broken (.all .incomplete), [])

def readMoreElements : Nat → List Char → Elements × List Char
  | 0, _ => (.broken .incomplete, [])
  | fuel + 1, cs =>
    match skipBlanks cs with
    | ']' :: rest => (.close, rest)
    | ',' :: cs =>
      let (e, rest) := readValue fuel cs
      let (es, rest) := readMoreElements fuel rest
      (.more e es, rest)
    | cs => (.broken (flawAt cs), [])

/-- Reads a member behind the quotation mark that opens its key, and what follows the member. -/
def readMember : Nat → List Char → Members × List Char
  | 0, _ => (.broken false .incomplete, [])
  | fuel + 1, cs =>
    match scanString none cs with
    | .cut reading skipping => (.more (.error reading) (.broken (.all skipping)) .close, [])
    | .closed key rest =>
      match skipBlanks rest with
      | ':' :: cs =>
        let (value, rest) := readValue fuel cs
        let (ms, rest) := readMoreMembers fuel rest
        (.more (key.map String.ofList) value ms, rest)
      | cs => (.more (key.map String.ofList) (.broken (.all (flawAt cs))) .close, [])

def readMoreMembers : Nat → List Char → Members × List Char
  | 0, _ => (.broken false .incomplete, [])
  | fuel + 1, cs =>
    match skipBlanks cs with
    | '\x7d' :: rest => (.close, rest)
    | ',' :: cs =>
      match skipBlanks cs with
      | '"' :: cs => readMember fuel cs
      | cs => (.broken true (flawAt cs), [])
    | cs => (.broken false (flawAt cs), [])

end

def read (text : String) : Document :=
  let cs := text.toList
  let (root, rest) := readValue (cs.length + 1) cs
  ⟨root, (skipBlanks rest).isEmpty⟩

end Blocklist.Json
