import Blocklist.Json.Reading
import Blocklist.TextMap
/-!
Taking values of a known form out of JSON trees. A record is written as an object or as an array of
its fields; an object may have further members, which are passed over.
-/

namespace Blocklist.Json

def Node.mismatch (expected : String) (n : Node) : Error :=
  let found (what : String) : Error :=
    .data ("invalid type: " ++ what ++ ", expected " ++ expected)
  match n with
  | .null => found "null"
  | .bool b => found ("boolean \x60" ++ toString b ++ "\x60")
  | .number n => found n.description
  | .string s => found ("string " ++ Text.quoted s)
  | .array _ => found "sequence"
  | .object _ => found "map"
  | .unreadable f => f.error
  | .broken f => f.reading.error

def elementCount (n : Nat) : String :=
  toString n ++ (if n = 1 then " element" else " elements")

def invalidLength (length : Nat) (expected : String) : Error :=
  .data ("invalid length " ++ toString length ++ ", expected " ++ expected)

def missingField (name : String) : Error :=
  .data ("missing field \x60" ++ name ++ "\x60")

def duplicateField (name : String) : Error :=
  .data ("duplicate field \x60" ++ name ++ "\x60")

def choices (names : List String) : String :=
  match names.map fun name => "\x60" ++ name ++ "\x60" with
  | [a, b] => a ++ " or " ++ b
  | names => "one of " ++ ", ".intercalate names

def choose (cs : List (String × α)) (name : String) : Except Error α :=
  match cs.lookup name with
  | some a => .ok a
  | none =>
    .error (.data
      ("unknown variant \x60" ++ name ++ "\x60, expected " ++ choices (cs.map Prod.fst)))

def Node.toText (expected : String) : Node → Except Error String
  | .string s => .ok s
  | n => .error (n.mismatch expected)

def Node.asString : Node → Except Error String :=
  Node.toText "a string"

def Node.asVariant : Node → Except Error String :=
  Node.toText "variant identifier"

def Node.asBool : Node → Except Error Bool
  | .bool b => .ok b
  | n => .error (n.mismatch "a boolean")

def Node.asReal : Node → Except Error Binary64
  | .number n => .ok n.toBinary64
  | n => .error (n.mismatch "f64")

def Node.asNull : Node → Except Error Unit
  | .null => .ok ()
  | n => .error (n.mismatch "unit")

def Elements.toList (take : Node → Except Error α) : Elements → Except Error (List α)
  | .close => .ok []
  | .broken f => .error f.error
  | .more e rest => do return (← take e) :: (← rest.toList take)

def Node.asList (take : Node → Except Error α) : Node → Except Error (List α)
  | .array es => es.toList take
  | n => .error (n.mismatch "a sequence")

def Members.fold (step : σ → String → Node → Except Error σ) (s : σ) : Members → Except Error σ
  | .close => .ok s
  | .broken _ f => .error f.error
  | .stray _ => .error .malformed
  | .more key value rest => do
    let key ← key.mapError Flaw.error
    rest.fold step (← step s key value)

/-- Takes the members of an object; of members with one key the last counts. -/
def Node.asMap (take : Node → Except Error α) : Node → Except Error (TextMap α)
  | .object ms => ms.fold (fun m key value => do return m.insert key (← take value)) .empty
  | n => .error (n.mismatch "a map")

/-- Takes one of some choices: its name, or an object with its name as the key of `null`. -/
def Node.asChoice (cs : List (String × α)) : Node → Except Error α
  | .string s => choose cs s
  | .object (.more key value rest) => do
    let a ← choose cs (← key.mapError Flaw.error)
    value.asNull
    match rest with
    | .close => return a
    | .broken false f => throw f.error
    | _ => throw .malformed
  | .object (.stray v) => .error (v.mismatch "variant identifier")
  | .object (.broken _ f) => .error f.error
  | .broken f => .error f.naming.error
  | .unreadable f => .error f.error
  | _ => .error .malformed

/-! ## Records -/

/-- A field of a record. -/
structure Field (σ : Type) where
  name : String
  /-- Another name that the field goes by in objects. -/
  alias? : Option String
  isRequired : Bool
  /-- Takes the value of the field into the record. -/
  put : Node → σ → Except Error σ

def Field.answersTo (f : Field σ) (key : String) : Bool :=
  key == f.name || f.alias? == some key

/-- A kind of record. -/
structure Shape (σ : Type) where
  /-- The name of the kind in messages. -/
  name : String
  fields : List (Field σ)
  /-- The record before any field is taken. -/
  blank : σ

def Shape.description (s : Shape σ) : String :=
  "struct " ++ s.name

/-- A record while its fields are taken. -/
structure Draft (σ : Type) where
  /-- The names of the fields that have been taken. -/
  filled : List String
  value : σ

def Shape.putMember (s : Shape σ) (d : Draft σ) (key : String) (value : Node) :
    Except Error (Draft σ) :=
  match s.fields.find? (·.answersTo key) with
  | none => do
    value.skip
    return d
  | some f =>
    if d.filled.contains f.name then .error (duplicateField f.name)
    else do return ⟨f.name :: d.filled, ← f.put value d.value⟩

/-- Takes elements into the fields of a record in turn. `index` fields have been taken; the array
ends with the last field. -/
def Shape.putElements (s : Shape σ) (index : Nat) (value : σ) :
    List (Field σ) → Elements → Except Error σ
  | [], .close => .ok value
  | [], .broken f => .error f.error
  | [], .more _ _ => .error .malformed
  | _ :: _, .broken f => .error f.error
  | f :: fs, .close =>
    if f.isRequired then
      .error (invalidLength index (s.description ++ " with " ++ elementCount s.fields.length))
    else s.putElements (index + 1) value fs .close
  | f :: fs, .more e rest => do s.putElements (index + 1) (← f.put e value) fs rest

def Shape.take (s : Shape σ) : Node → Except Error σ
  | .object ms => do
    let d ← ms.fold s.putMember ⟨[], s.blank⟩
    match s.fields.find? fun f => f.isRequired && !d.filled.contains f.name with
    | some f => throw (missingField f.name)
    | none => return d.value
  | .array es => s.putElements 0 s.blank s.fields es
  | n => .error (n.mismatch s.description)

def decode (take : Node → Except Error α) (text : String) : Except Error α := do
  let d := read text
  let a ← take d.root
  if d.isWhole then return a else throw .malformed

end Blocklist.Json
