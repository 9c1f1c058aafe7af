import Blocklist.Detector
/-!
Classifications in JSON.
-/

namespace Blocklist

def Reason.toJson (r : Reason) : Json.Value :=
  .object (("kind", .string r.kind) :: r.index?.toList.map fun i => ("rule", .natural i))

def Classification.toJson (c : Classification) : Json.Value :=
  .object [
    ("action", .string c.action.name),
    ("matched_tracker_domain", .string c.trackerDomain),
    ("matched_entity", .ofOption Entity.toJson c.entity),
    ("reason", c.reason.toJson)]

end Blocklist
