import Blocklist.Binary64
import Blocklist.Text.Quoted
/-!
JSON as it is read. A text that breaks off or breaks the grammar still has a tree: the first flaw is
a leaf of it, at the place where it is met. Whoever walks the tree in the order of the text meets
what is in front of the flaw, then the flaw, and nothing behind it.
-/

namespace Blocklist.Json

/-- What is wrong with a text. -/
inductive Flaw where
  /-- Something stands where the grammar does not allow it. -/
  | malformed
  /-- The text breaks off. -/
  | incomplete
deriving DecidableEq, Repr

/-- A flaw by the way in which it is met. -/
structure Fault where
  /-- The flaw met when the value is read. -/
  reading : Flaw
  /-- The flaw met when the value is passed over. -/
  skipping : Flaw
  /-- The flaw met when the value is read as the name of a choice. -/
  naming : Flaw
deriving DecidableEq, Repr

def Fault.all (f : Flaw) : Fault := ⟨f, f, f⟩

/-- Why a text does not give the value that is asked for. -/
inductive Error where
  /-- The text is not JSON. -/
  | malformed
  /-- The text breaks off. -/
  | incomplete
  /-- The text is JSON for something else. -/
  | data (message : String)
deriving DecidableEq, Repr

def Flaw.error : Flaw → Error
  | malformed => .malformed
  | incomplete => .incomplete

def Error.category : Error → String
  | malformed => "syntax"
  | incomplete => "eof"
  | data _ => "data"

/-- A number. -/
inductive Number where
  /-- A natural number of 64 bits. -/
  | natural (n : Nat)
  /-- A number below zero of 64 bits, without its sign. -/
  | negative (n : Nat)
  /-- Any other number, rounded. -/
  | real (x : Binary64)
deriving DecidableEq, Repr

def Number.toBinary64 : Number → Binary64
  | natural n => (Binary64.ofNat? n).getD .zero
  | negative n => ((Binary64.ofNat? n).getD .zero).neg
  | real x => x

def Number.description : Number → String
  | natural n => "integer \x60" ++ toString n ++ "\x60"
  | negative n => "integer \x60-" ++ toString n ++ "\x60"
  | real x => "floating point \x60" ++ x.toText ++ "\x60"

mutual

/-- A value in a text. -/
inductive Node where
  | null
  | bool (b : Bool)
  | number (n : Number)
  | string (s : String)
  | array (es : Elements)
  | object (ms : Members)
  /-- A number that is too great or a string that is no text. It can be passed over but not read. -/
  | unreadable (f : Flaw)
  /-- No value. -/
  | broken (f : Fault)

/-- The elements of an array. -/
inductive Elements where
  /-- The end of the array. -/
  | close
  /-- Neither a comma nor the end. -/
  | broken (f : Flaw)
  | more (e : Node) (rest : Elements)

/-- The members of an object. -/
inductive Members where
  /-- The end of the object. -/
  | close
  /-- Neither a member nor the end, with or without a comma in front. -/
  | broken (afterComma : Bool) (f : Flaw)
  /-- A value that is no string in the place of the first key. -/
  | stray (v : Node)
  /-- A member. What stands in the place of its colon counts as its value. -/
  | more (key : Except Flaw String) (value : Node) (rest : Members)

end

instance : Inhabited Node := ⟨.null⟩

/-- The tree of a text. -/
structure Document where
  root : Node
  /-- Whether nothing but blanks follows the value. -/
  isWhole : Bool
deriving Inhabited

mutual

def Node.skip : Node → Except Error Unit
  | .array es => es.skip
  | .object ms => ms.skip
  | .broken f => .error f.skipping.error
  | _ => .ok ()

def Elements.skip : Elements → Except Error Unit
  | .close => .ok ()
  | .broken f => .error f.error
  | .more e rest => do e.skip; rest.skip

def Members.skip : Members → Except Error Unit
  | .close => .ok ()
  | .broken _ f => .error f.error
  | .stray _ => .error .malformed
  | .more _ value rest => do value.skip; rest.skip

end

/-- The greatest depth of nested values, the innermost one that is entered not counted. -/
def maxDepth : Nat := 128

def enter (room : Nat) : Except Error Nat :=
  if 1 < room then .ok (room - 1) else .error .malformed

mutual

/-- Reads a value of any kind to its end. `room` is the depth to which arrays and objects may be
nested, and one more. -/
def Node.check (room : Nat) : Node → Except Error Unit
  | .array es => do es.check (← enter room)
  | .object ms => do ms.check (← enter room)
  | .unreadable f => .error f.error
  | .broken f => .error f.reading.error
  | _ => .ok ()

def Elements.check (room : Nat) : Elements → Except Error Unit
  | .close => .ok ()
  | .broken f => .error f.error
  | .more e rest => do e.check room; rest.check room

def Members.check (room : Nat) : Members → Except Error Unit
  | .close => .ok ()
  | .broken _ f => .error f.error
  | .stray _ => .error .malformed
  | .more key value rest => do
    discard (key.mapError Flaw.error)
    value.check room
    rest.check room

end

end Blocklist.Json
