import Blocklist.Detector
/-!
Snapshots of a detector. A new detector replaces the one in use as a whole; who holds an older
snapshot keeps it. Generations are 64 bits wide, and a publication that would pass the greatest one
is aborted.
-/

namespace Blocklist

variable [Pattern.SizeLimit]

/-- A detector with the number of its generation. -/
structure Snapshot where
  generation : UInt64
  detector : Detector

/-- The generation after that of a snapshot, if there is one. -/
def Snapshot.nextGeneration? (x : Snapshot) : Option UInt64 :=
  if h : x.generation.toNat + 1 < UInt64.size then
    some (.ofNatLT (x.generation.toNat + 1) h)
  else none

/-- The snapshot in use. -/
structure SnapshotStore where
  current : Snapshot

namespace SnapshotStore

/-- Puts a detector in the place of the one in use, as the next generation, and returns it. The
publication is aborted before it changes the store if there is no next generation. -/
def publish (s : SnapshotStore) (detector : Detector) : Option (SnapshotStore × UInt64) :=
  s.current.nextGeneration?.map fun generation => (⟨⟨generation, detector⟩⟩, generation)

end SnapshotStore

end Blocklist
