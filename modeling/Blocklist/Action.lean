/-!
What is decided about the load of a resource.
-/

namespace Blocklist

/-- What is decided about the load of a resource. -/
inductive Action where
  /-- The load is cancelled. -/
  | block
  /-- The load is allowed. -/
  | ignore
deriving DecidableEq, Repr, Inhabited

def Action.name : Action → String
  | .block => "block"
  | .ignore => "ignore"

end Blocklist
