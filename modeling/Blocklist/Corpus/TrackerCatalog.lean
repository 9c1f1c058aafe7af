import Blocklist.Corpus.EntityRegistry
import Blocklist.Dataset
/-!
The catalog of trackers: valid trackers whose owners have been looked up in a registry, and the
entities that own them.
-/

namespace Blocklist

/-- Trackers by domain, and the entities that own them by name. -/
structure TrackerCatalog where
  trackers : TextMap Tracker
  entities : TextMap Entity
  /-- The number of trackers with an owner that is not in the registry. -/
  unresolvedOwners : Nat
  report : LoadReport
deriving Inhabited

namespace TrackerCatalog

variable [Pattern.SizeLimit]

/-- A tracker whose owner has the name that the registry has for it. -/
def resolveOwner (registry : EntityRegistry) (t : Tracker) : Tracker :=
  match t.owner.bind registry.find? with
  | some e => { t with owner := some e.name }
  | none => t

/-- The catalog of valid trackers; of trackers for one domain the last counts. -/
def ofValid (registry : EntityRegistry) (ts : List Tracker) (report : LoadReport) :
    TrackerCatalog :=
  let trackers := TextMap.ofList (ts.map fun t => (t.domain, resolveOwner registry t))
  let owners := trackers.values.filterMap Tracker.owner
  { trackers
    entities := .ofList ((owners.filterMap registry.find?).map fun e => (e.name, e))
    unresolvedOwners := owners.countP fun owner => (registry.find? owner).isNone
    report }

/-- The catalog of trackers in normal form. Invalid ones are left out. -/
def ofTrackers (registry : EntityRegistry) (ts : List Tracker) : TrackerCatalog :=
  let valid := ts.filterMap fun t => t.normalize.toOption
  ofValid registry valid ⟨valid.length, []⟩

def readFile (t : FileTree) (p : Path) : Except SkipReason Tracker := do
  (← readDescriptor t Tracker.read p).normalize.mapError .invalid

def load (t : FileTree) (path : String) (registry : EntityRegistry) :
    Except LoadError TrackerCatalog := do
  let files ← listDescriptors t path fun _ => true
  let results := files.map fun file => (file, readFile t file)
  let valid := results.filterMap fun (_, result) => result.toOption
  return ofValid registry valid (.ofResults results)

def takeReport (c : TrackerCatalog) : LoadReport × TrackerCatalog :=
  (c.report, { c with report := .empty })

def dataset (c : TrackerCatalog) : Dataset :=
  .build c.trackers.values c.entities.values

end TrackerCatalog

end Blocklist
