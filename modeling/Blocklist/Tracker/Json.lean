import Blocklist.Entity
import Blocklist.Tracker.Basic
/-!
Trackers in JSON. Some fields have a second name, and an owner may be given by name or as a record
that has a name.
-/

namespace Blocklist

def TypeMask.take (n : Json.Node) : Except Json.Error TypeMask := do
  let names ← n.asList Json.Node.asString
  match names.find? fun name => (ResourceType.ofName? name).isNone with
  | some name => throw (.data ("unknown resource type '" ++ name ++ "'"))
  | none => return .ofNames names

def Action.take : Json.Node → Except Json.Error Action :=
  Json.Node.asChoice [(Action.block.name, .block), (Action.ignore.name, .ignore)]

namespace RuleOptions

def shape : Json.Shape RuleOptions where
  name := "RuleOptions"
  fields := [
    ⟨"subdomain_match", none, false, fun n _ => do return ⟨← n.asBool⟩⟩]
  blank := ⟨true⟩

def read (text : String) : Except Json.Error RuleOptions :=
  Json.decode shape.take text

def toJson (o : RuleOptions) : Json.Value :=
  .object [("subdomain_match", .bool o.subdomains)]

end RuleOptions

def TypeMask.toJson (m : TypeMask) : Json.Value :=
  .strings (m.toList.map ResourceType.name)

namespace RuleExceptions

/-- The fields of the exceptions of a rule. -/
def shape : Json.Shape RuleExceptions where
  name := "RuleExceptions"
  fields := [
    ⟨"domains", none, false,
      fun n x => do return { x with domains := ← Entity.takeTextSet n }⟩,
    ⟨"resource_types", some "types", false,
      fun n x => do return { x with types := ← TypeMask.take n }⟩]
  blank := ⟨.empty, .empty⟩

def read (text : String) : Except Json.Error RuleExceptions :=
  Json.decode shape.take text

/-- The exceptions of a rule as JSON; what is empty is left out. -/
def toJson (x : RuleExceptions) : Json.Value :=
  .object (
    (if x.domains.isEmpty then [] else [("domains", .strings x.domains.toList)]) ++
    (if x.types.isEmpty then [] else [("resource_types", x.types.toJson)]))

end RuleExceptions

namespace TrackerRule

def shape : Json.Shape TrackerRule where
  name := "TrackerRule"
  fields := [
    ⟨"pattern", some "rule", false, fun n r => do return { r with pattern := ← n.asString }⟩,
    ⟨"action", none, false, fun n r => do return { r with action := ← Action.take n }⟩,
    ⟨"resource_types", some "types", false,
      fun n r => do return { r with types := ← TypeMask.take n }⟩,
    ⟨"matched_domains", some "domains", false,
      fun n r => do return { r with domains := ← Entity.takeTextSet n }⟩,
    ⟨"options", none, false,
      fun n r => do return { r with options := ← RuleOptions.shape.take n }⟩,
    ⟨"exceptions", none, false,
      fun n r => do return { r with exceptions := ← RuleExceptions.shape.take n }⟩]
  blank := .forPattern "" .block

def read (text : String) : Except Json.Error TrackerRule :=
  Json.decode shape.take text

/-- A rule as JSON; what is empty is left out. -/
def toJson (r : TrackerRule) : Json.Value :=
  .object (
    [("pattern", .string r.pattern), ("action", .string r.action.name)] ++
    (if r.types.isEmpty then [] else [("resource_types", r.types.toJson)]) ++
    (if r.domains.isEmpty then [] else [("matched_domains", .strings r.domains.toList)]) ++
    [("options", r.options.toJson)] ++
    (if r.exceptions.isEmpty then [] else [("exceptions", r.exceptions.toJson)]))

end TrackerRule

namespace Tracker

/-- The error for an owner that is neither a name nor a record with a name. -/
def invalidOwner : Json.Error :=
  .data "data did not match any variant of untagged enum Owner"

/-- Takes the members of the record of an owner into its name, if a name has been found. -/
def putOwnerName (found : Option (Option String)) (key : String) (value : Json.Node) :
    Except Json.Error (Option (Option String)) :=
  if key != "name" then .ok found
  else
    match found, value with
    | none, .null => .ok (some none)
    | none, .string s => .ok (some (some s))
    | _, _ => .error invalidOwner

/-- Takes the name of an owner. The value is first read to its end, whatever it is. -/
def takeOwner (room : Nat) : Json.Node → Except Json.Error (Option String)
  | .null => .ok none
  | n => do
    n.check room
    match n with
    | .string s => return some s
    | .object ms => return (← ms.fold putOwnerName none).join
    | _ => throw invalidOwner

/-- The fields of a tracker. `room` is the depth to which a field may be nested, and one more. -/
def shape (room : Nat) : Json.Shape Tracker where
  name := "KnownTracker"
  fields := [
    ⟨"domain", none, true, fun n t => do return { t with domain := ← n.asString }⟩,
    ⟨"owner_entity_name", some "owner", false,
      fun n t => do return { t with owner := ← takeOwner room n }⟩,
    ⟨"default_action", some "default", false,
      fun n t => do return { t with action := ← Action.take n }⟩,
    ⟨"rules", none, false,
      fun n t => do return { t with rules := ← n.asList TrackerRule.shape.take }⟩,
    ⟨"prevalence", none, false, fun n t => do return { t with prevalence := ← n.asReal }⟩]
  blank := .forDomain "" .block

def read (text : String) : Except Json.Error Tracker :=
  Json.decode (shape (Json.maxDepth - 1)).take text

/-- A tracker as JSON; what is empty is left out. -/
def toJson (t : Tracker) : Json.Value :=
  .object (
    [("domain", .string t.domain)] ++
    (t.owner.elim [] fun owner => [("owner_entity_name", .string owner)]) ++
    [("default_action", .string t.action.name)] ++
    (if t.rules.isEmpty then [] else [("rules", .array (t.rules.map TrackerRule.toJson))]) ++
    [("prevalence", .real t.prevalence)])

end Tracker

end Blocklist
