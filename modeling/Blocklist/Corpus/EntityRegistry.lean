import Blocklist.Corpus.Report
import Blocklist.Entity
/-!
The registry of entities. An owner is looked up by the name of an entity, and else by its key: names
and file names are the same key if they differ in slashes and exclamation marks alone.
-/

namespace Blocklist

/-- Entities by name, and their names by key. -/
structure EntityRegistry where
  entities : TextMap Entity
  names : TextMap String
  report : LoadReport
deriving Inhabited

namespace EntityRegistry

def key (name : String) : String :=
  String.ofList (name.toList.filter fun c => c != '/' && c != '!')

def empty : EntityRegistry := ⟨.empty, .empty, .empty⟩

def insert (r : EntityRegistry) (e : Entity) : EntityRegistry :=
  { r with entities := r.entities.insert e.name e, names := r.names.insert (key e.name) e.name }

def insertFile (r : EntityRegistry) (file : Path) (e : Entity) : EntityRegistry :=
  let names := (file.stem?).elim r.names fun stem => r.names.insert (key stem) e.name
  { r with names }.insert e

/-- The registry of entities in normal form. Those without a name are left out. -/
def ofEntities (es : List Entity) : EntityRegistry :=
  let valid := es.filterMap Entity.normalize?
  { valid.foldl insert empty with report := ⟨valid.length, []⟩ }

def readFile (t : FileTree) (p : Path) : Except SkipReason Entity := do
  match (← readDescriptor t Entity.read p).normalize? with
  | some e => return e
  | none => throw (.malformed (.data "entity has an empty name"))

def load (t : FileTree) (path : String) : Except LoadError EntityRegistry := do
  let files ← listDescriptors t path (Path.hasExtension "json")
  let results := files.map fun file => (file, readFile t file)
  let registry := results.foldl
    (fun r (file, result) => result.toOption.elim r (r.insertFile file)) empty
  return { registry with report := .ofResults results }

def find? (r : EntityRegistry) (owner : String) : Option Entity :=
  let name := Text.trim owner
  r.entities.get? name <|> (r.names.get? (key name)).bind r.entities.get?

end EntityRegistry

end Blocklist
