import Blocklist.Host
import Blocklist.Json.Decoding
import Blocklist.Json.Value
import Blocklist.TextSet
/-!
Entities: companies that own trackers and web sites. An entity is known by its name.
-/

namespace Blocklist

/-- A company that owns trackers and web sites. -/
structure Entity where
  name : String
  displayName : String
  /-- The domains of its web sites. -/
  domains : TextSet
  /-- The share of web sites on which it is found. -/
  prevalence : Binary64
deriving DecidableEq

namespace Entity

def named (name : String) (domains : List String) : Entity :=
  ⟨name, name, .ofList domains, .zero⟩

def isSame (e f : Entity) : Bool := e.name == f.name

/-- An entity with its name trimmed, its display name filled in, and the domains that are valid in
normal form. There is none without a name. -/
def normalize? (e : Entity) : Option Entity :=
  let name := Text.trim e.name
  if name.isEmpty then none
  else
    some
      { e with
        name
        displayName := if (Text.trim e.displayName).isEmpty then name else e.displayName
        domains := .ofList (e.domains.toList.filterMap Host.normalize?) }

/-! ## JSON -/

def takeTextSet (n : Json.Node) : Except Json.Error TextSet :=
  TextSet.ofList <$> n.asList Json.Node.asString

def shape : Json.Shape Entity where
  name := "Entity"
  fields := [
    ⟨"name", none, true, fun n e => do return { e with name := ← n.asString }⟩,
    ⟨"display_name", some "displayName", false,
      fun n e => do return { e with displayName := ← n.asString }⟩,
    ⟨"domains", some "properties", false,
      fun n e => do return { e with domains := ← takeTextSet n }⟩,
    ⟨"prevalence", none, false, fun n e => do return { e with prevalence := ← n.asReal }⟩]
  blank := ⟨"", "", .empty, .zero⟩

def read (text : String) : Except Json.Error Entity :=
  Json.decode shape.take text

def toJson (e : Entity) : Json.Value :=
  .object [
    ("name", .string e.name),
    ("display_name", .string e.displayName),
    ("domains", .strings e.domains.toList),
    ("prevalence", .real e.prevalence)]

end Entity

end Blocklist
