import Blocklist.Tracker.Json
import Blocklist.Tracker.Normalize
/-!
Datasets: trackers by domain, the entities that own them by name, and the owner of each domain of
these entities. A dataset is built once and not changed.
-/

namespace Blocklist

/-- The name of the owner of each domain of some entities. Of entities with a common domain the one
whose name comes last owns it. -/
def ownerIndex (entities : TextMap Entity) : TextMap String :=
  .ofList (entities.values.flatMap fun e => e.domains.toList.map fun domain => (domain, e.name))

/-- Trackers, and the entities that own them. -/
structure Dataset where
  /-- The trackers by their domains. -/
  trackers : TextMap Tracker
  /-- The entities by their names. -/
  entities : TextMap Entity
  /-- The names of entities by their domains. -/
  owners : TextMap String
  owners_eq : owners = ownerIndex entities

namespace Dataset

variable [Pattern.SizeLimit]

def ofMaps (trackers : TextMap Tracker) (entities : TextMap Entity) : Dataset :=
  ⟨trackers, entities, ownerIndex entities, rfl⟩

/-- Counts of what went into a dataset. -/
structure BuildStats where
  trackers : Nat
  entities : Nat
  /-- The trackers that a later one for the same domain replaced. -/
  duplicateTrackers : Nat
  /-- The entities that a later one with the same name replaced. -/
  duplicateEntities : Nat
  invalidTrackers : Nat
  invalidEntities : Nat
  /-- The trackers with an owner that no entity has the name of. -/
  unresolvedOwners : Nat
  /-- The entities that own no tracker and were left out. -/
  unreferencedEntities : Nat
deriving DecidableEq, Repr

/-- Records in normal form by their keys, and counts of the others. -/
structure Index (α : Type u) where
  records : TextMap α
  /-- The records that a later one with the same key replaced. -/
  replaced : Nat
  /-- The records without a normal form. -/
  invalid : Nat

namespace Index

variable {α : Type u} (key : α → String)

/-- Takes in one more record, in its normal form if it has one. -/
def add (i : Index α) : Option α → Index α
  | none => { i with invalid := i.invalid + 1 }
  | some x =>
    { i with
      records := i.records.insert (key x) x
      replaced := if i.records.contains (key x) then i.replaced + 1 else i.replaced }

/-- The index of some records, of each its normal form if it has one. -/
def ofList (xs : List (Option α)) : Index α :=
  xs.foldl (add key) ⟨.empty, 0, 0⟩

end Index

def trackerIndex (ts : List Tracker) : Index Tracker :=
  .ofList Tracker.domain (ts.map fun t => t.normalize.toOption)

def entityIndex (es : List Entity) : Index Entity :=
  .ofList Entity.name (es.map Entity.normalize?)

/-- The owners of some trackers among some entities. -/
structure Owners where
  /-- The names of the entities that own a tracker. -/
  live : TextSet
  /-- The number of trackers with an owner that no entity has the name of. -/
  unresolved : Nat

/-- Takes in one more tracker. -/
def Owners.add (entities : TextMap Entity) (o : Owners) (t : Tracker) : Owners :=
  match t.owner with
  | none => o
  | some name =>
    if entities.contains name then { o with live := o.live.insert name }
    else { o with unresolved := o.unresolved + 1 }

def Owners.ofList (entities : TextMap Entity) (ts : List Tracker) : Owners :=
  ts.foldl (add entities) ⟨.empty, 0⟩

/-- Builds a dataset, and counts what becomes of the records. Invalid records and entities that own
no tracker are left out, and of records with one key the last counts. -/
def buildWithStats (ts : List Tracker) (es : List Entity) : Dataset × BuildStats :=
  let entities := entityIndex es
  let trackers := trackerIndex ts
  let owners := Owners.ofList entities.records trackers.records.values
  let kept := entities.records.filter fun name _ => owners.live.contains name
  (.ofMaps trackers.records kept,
    { trackers := trackers.records.size
      entities := kept.size
      duplicateTrackers := trackers.replaced
      duplicateEntities := entities.replaced
      invalidTrackers := trackers.invalid
      invalidEntities := entities.invalid
      unresolvedOwners := owners.unresolved
      unreferencedEntities := entities.records.size - kept.size })

def build (ts : List Tracker) (es : List Entity) : Dataset :=
  (buildWithStats ts es).1

def buildStats (ts : List Tracker) (es : List Entity) : BuildStats :=
  (buildWithStats ts es).2

def tracker? (d : Dataset) (domain : String) : Option Tracker :=
  d.trackers.get? domain

def entity? (d : Dataset) (name : String) : Option Entity :=
  d.entities.get? name

def ownerOf? (d : Dataset) (t : Tracker) : Option Entity :=
  t.owner.bind d.entity?

def entityForDomain? (d : Dataset) (domain : String) : Option Entity :=
  (d.owners.get? domain).bind d.entity?

def isEmpty (d : Dataset) : Bool := d.trackers.isEmpty

/-- Whether two datasets have the same trackers, entities with the same names, and the same owners
of domains. -/
def isSame (d e : Dataset) : Bool :=
  d.trackers.keys == e.trackers.keys &&
    (d.trackers.values.zip e.trackers.values).all (fun (t, u) => t.isSame u) &&
    d.entities.keys == e.entities.keys && d.owners == e.owners

/-! ## JSON -/

/-- A dataset as JSON: the trackers by domain, and a list of the entities in the order of their
names. -/
def toJson (d : Dataset) : Json.Value :=
  .object [
    ("trackers", .object (d.trackers.entries.map fun (domain, t) => (domain, t.toJson))),
    ("entities", .array (d.entities.values.map Entity.toJson))]

def toText (d : Dataset) : String := d.toJson.pretty

/-- The records in the text of a dataset. -/
structure Records where
  trackers : TextMap Tracker
  entities : List Entity

/-- The fields of the text of a dataset. -/
def shape : Json.Shape Records where
  name := "DatasetFile"
  fields := [
    ⟨"trackers", none, false,
      fun n r => do
        return { r with trackers := ← n.asMap (Tracker.shape (Json.maxDepth - 3)).take }⟩,
    ⟨"entities", none, false,
      fun n r => do return { r with entities := ← n.asList Entity.shape.take }⟩]
  blank := ⟨.empty, []⟩

/-- Reads a dataset. Its records are built again, so invalid ones are left out. -/
def read (text : String) : Except Json.Error Dataset := do
  let r ← Json.decode shape.take text
  return build r.trackers.values r.entities

end Dataset

end Blocklist
