import Blocklist.ContentRule.Basic
import Blocklist.Json.Decoding
import Blocklist.Json.Value
/-!
Rules of content blocking hosts in JSON. Empty lists are left out: hosts take an empty list for one
that nothing is in.
-/

namespace Blocklist

namespace Trigger

def takeTexts : Json.Node → Except Json.Error (List String) :=
  Json.Node.asList Json.Node.asString

def shape : Json.Shape Trigger where
  name := "Trigger"
  fields := [
    ⟨"url-filter", none, true, fun n t => do return { t with urlFilter := ← n.asString }⟩,
    ⟨"resource-type", none, false, fun n t => do return { t with types := ← takeTexts n }⟩,
    ⟨"if-domain", none, false, fun n t => do return { t with ifDomains := ← takeTexts n }⟩,
    ⟨"unless-domain", none, false,
      fun n t => do return { t with unlessDomains := ← takeTexts n }⟩]
  blank := .forFilter ""

/-- A list of texts as a member, if it is not empty. -/
def listMember (name : String) (ts : List String) : List (String × Json.Value) :=
  if ts.isEmpty then [] else [(name, .strings ts)]

/-- A trigger as JSON; what is empty is left out. -/
def toJson (t : Trigger) : Json.Value :=
  .object (
    ("url-filter", .string t.urlFilter) ::
      (listMember "resource-type" t.types ++ listMember "if-domain" t.ifDomains ++
        listMember "unless-domain" t.unlessDomains))

end Trigger

namespace ContentAction

/-- The kinds of actions. -/
inductive Kind where
  | block
  | ignorePreviousRules
  | hide
deriving DecidableEq

def kinds : List (String × Kind) :=
  [("block", .block), ("ignore-previous-rules", .ignorePreviousRules), ("css-display-none", .hide)]

def takeKind (n : Json.Node) : Except Json.Error Kind := do
  Json.choose kinds (← n.asVariant)

/-- The members of an action while they are gone through: the kind, and the others in reverse. -/
structure Parts where
  kind : Option Kind
  others : List (String × Json.Node)

def takePart (room : Nat) (p : Parts) (key : String) (value : Json.Node) :
    Except Json.Error Parts :=
  if key != "type" then do
    value.check room
    return { p with others := (key, value) :: p.others }
  else if p.kind.isSome then .error (Json.duplicateField "type")
  else do return { p with kind := some (← takeKind value) }

/-- Takes the selector out of the members of an action. -/
def takeSelector (found : Option String) : List (String × Json.Node) → Except Json.Error String
  | [] =>
    match found with
    | some selector => .ok selector
    | none => .error (Json.missingField "selector")
  | (key, value) :: rest =>
    if key != "selector" then takeSelector found rest
    else if found.isSome then .error (Json.duplicateField "selector")
    else do takeSelector (some (← value.asString)) rest

/-- Puts an action together from its kind and its other members. -/
def ofMembers (members : List (String × Json.Node)) : Kind → Except Json.Error ContentAction
  | .block => .ok .block
  | .ignorePreviousRules => .ok .ignorePreviousRules
  | .hide => hide <$> takeSelector none members

/-- A count of elements behind the kind of an action, in words. -/
def sequenceCount (n : Nat) : String :=
  Json.elementCount n ++ " in sequence"

/-- Puts an action together from its kind and the elements behind it. -/
def ofElements (elements : List Json.Node) : Kind → Except Json.Error ContentAction
  | .block =>
    if elements.isEmpty then .ok .block
    else .error (Json.invalidLength elements.length (sequenceCount 0))
  | .ignorePreviousRules =>
    if elements.isEmpty then .ok .ignorePreviousRules
    else .error (Json.invalidLength elements.length (sequenceCount 0))
  | .hide =>
    match elements with
    | [] =>
      .error (Json.invalidLength 0
        ("struct variant CompiledAction::CssDisplayNone with " ++ Json.elementCount 1))
    | e :: rest => do
      let selector ← e.asString
      if rest.isEmpty then return .hide selector
      else throw (Json.invalidLength elements.length (sequenceCount 1))

/-- Takes an action: an object with its kind under `type`, or an array that starts with its kind.
The value is read to its end before the kind is looked at. `room` is the depth to which it may be
nested, and one more. -/
def take (room : Nat) : Json.Node → Except Json.Error ContentAction
  | .object ms => do
    let room ← Json.enter room
    let p ← ms.fold (takePart room) ⟨none, []⟩
    match p.kind with
    | none => throw (Json.missingField "type")
    | some kind => ofMembers p.others.reverse kind
  | .array .close => .error (Json.missingField "type")
  | .array (.broken f) => .error f.error
  | .array (.more e rest) => do
    let room ← Json.enter room
    let kind ← takeKind e
    let elements ← rest.toList fun n => do
      n.check room
      return n
    ofElements elements kind
  | n => .error (n.mismatch "internally tagged enum CompiledAction")

def toJson : ContentAction → Json.Value
  | block => .object [("type", .string "block")]
  | ignorePreviousRules => .object [("type", .string "ignore-previous-rules")]
  | hide selector => .object [("type", .string "css-display-none"), ("selector", .string selector)]

end ContentAction

namespace ContentRule

/-- The fields of a rule. `room` is the depth to which a field may be nested, and one more. -/
def shape (room : Nat) : Json.Shape ContentRule where
  name := "CompiledRule"
  fields := [
    ⟨"trigger", none, true, fun n r => do return { r with trigger := ← Trigger.shape.take n }⟩,
    ⟨"action", none, true, fun n r => do return { r with action := ← ContentAction.take room n }⟩]
  blank := ⟨.forFilter "", .block⟩

def read (text : String) : Except Json.Error ContentRule :=
  Json.decode (shape (Json.maxDepth - 1)).take text

def readList (text : String) : Except Json.Error (List ContentRule) :=
  Json.decode (Json.Node.asList (shape (Json.maxDepth - 2)).take) text

def toJson (r : ContentRule) : Json.Value :=
  .object [("trigger", r.trigger.toJson), ("action", r.action.toJson)]

def listToJson (rs : List ContentRule) : Json.Value :=
  .array (rs.map toJson)

end ContentRule

end Blocklist
