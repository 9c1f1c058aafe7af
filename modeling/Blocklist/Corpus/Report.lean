import Blocklist.FileTree
import Blocklist.Json.Decoding
import Blocklist.Tracker.Normalize
/-!
What happens when a directory of descriptor files is loaded. A file that cannot be used is skipped
and reported; only a directory that cannot be gone through ends a load.
-/

namespace Blocklist

/-- Why a load or an output ended. -/
inductive LoadError where
  /-- The files below a path cannot be found. -/
  | enumerate (path : String)
  | read (path : String) (error : FileError)
  | write (path : String) (error : FileError)
  /-- A list of rules cannot be read. -/
  | rules (error : Json.Error)
  /-- A dataset cannot be read. -/
  | dataset (error : Json.Error)
deriving DecidableEq, Repr

/-- Why a descriptor file is skipped. -/
inductive SkipReason where
  | unreadable (error : FileError)
  | malformed (error : Json.Error)
  | invalid (refusal : Tracker.Refusal)
deriving DecidableEq, Repr

/-- A descriptor file that is skipped. -/
structure SkippedFile where
  path : Path
  reason : SkipReason
deriving DecidableEq, Repr

def SkippedFile.refusalText? (s : SkippedFile) : Option String :=
  match s.reason with
  | .invalid refusal => some (s.path.toText ++ ": invalid tracker: " ++ refusal.message)
  | _ => none

/-- How many descriptor files are loaded, and which are skipped. -/
structure LoadReport where
  loaded : Nat
  skipped : List SkippedFile
deriving DecidableEq, Repr, Inhabited

def LoadReport.empty : LoadReport := ⟨0, []⟩

def LoadReport.ofResults (results : List (Path × Except SkipReason α)) : LoadReport :=
  { loaded := results.countP fun (_, r) => r.toOption.isSome
    skipped := results.filterMap fun (path, r) =>
      match r with
      | .ok _ => none
      | .error reason => some ⟨path, reason⟩ }

/-- The descriptor files at or below a path, in the order of their paths. -/
def listDescriptors (t : FileTree) (path : String) (wanted : Path → Bool) :
    Except LoadError (List Path) :=
  match t.filesBelow? (.ofText path) with
  | some files => .ok (files.filter wanted)
  | none => .error (.enumerate path)

def readDescriptor (t : FileTree) (read : String → Except Json.Error α) (p : Path) :
    Except SkipReason α := do
  let text ← (t.readText p).mapError .unreadable
  (read text).mapError .malformed

end Blocklist
