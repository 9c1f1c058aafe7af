import Blocklist.Command.Run
import Blocklist.Pattern.Estimate
/-!
The program. It takes the files that a command is about into a tree, runs the command on the tree,
and writes the files that the command has changed.
-/

open scoped Blocklist.Pattern.Estimate

namespace Blocklist.Main

/-- Takes what is at a path into a tree: a file with its bytes if it can be opened, a directory with
all that is below it if `deep` holds. -/
partial def load (deep : Bool) (t : FileTree) (p : Path) : IO FileTree := do
  let file := (← IO.currentDir) / p.toText
  if ← file.isDir then
    let t := t.put p .directory
    if deep then
      let mut t := t
      for entry in ← file.readDir do
        t ← load deep t (p ++ [entry.fileName])
      return t
    else return t
  else if ← file.pathExists then
    try
      return t.put p (.file (← IO.FS.readBinFile file).toList)
    catch
      | .permissionDenied .. => return t.put p .locked
      | e => throw e
  else return t

/-- Takes what is at a path, and the directories above it, into a tree. -/
def loadWithAncestors (deep : Bool) (t : FileTree) (path : String) : IO FileTree := do
  let p := Path.ofText path
  let mut t := t
  for a in p.ancestors do
    if !a.isEmpty then t ← load false t a
  load deep t p

def save (before after : FileTree) : IO Unit := do
  let here ← IO.currentDir
  let changed := after.entries.filter fun (p, e) => before.entry? p != some e
  for (p, e) in changed do
    if e == .directory then IO.FS.createDirAll (here / p.toText)
  for (p, e) in changed do
    match e with
    | .file bytes => IO.FS.writeBinFile (here / p.toText) ⟨bytes.toArray⟩
    | .locked | .directory => pure ()

/-- A number of nanoseconds in milliseconds, with one digit behind the point. -/
def milliseconds (nanoseconds : Nat) : String :=
  let tenths := nanoseconds / 100000
  toString (tenths / 10) ++ "." ++ toString (tenths % 10) ++ "ms"

def timeLine (elapsed total : Nat) : Command → Option String
  | .build .. =>
    some ("  Time:     " ++ milliseconds total ++ " (compile: " ++ milliseconds elapsed ++ ")")
  | .classify .. => none
  | .validate .. => some ("Time: " ++ milliseconds elapsed)

def printLines (print : String → IO Unit) (lines : List String) : IO Unit :=
  lines.forM print

def runCommand (c : Command) : IO UInt32 := do
  let t ← c.sources.foldlM (loadWithAncestors true) FileTree.empty
  let t ← c.targets.foldlM (loadWithAncestors false) t
  let start ← IO.monoNanosNow
  let o := c.run t
  printLines (fun s => IO.eprintln s) o.errors
  let ran ← IO.monoNanosNow
  save t o.files
  let saved ← IO.monoNanosNow
  printLines (fun s => IO.println s) o.output
  if !o.output.isEmpty then
    printLines (fun s => IO.println s) (timeLine (ran - start) (saved - start) c).toList
  return UInt32.ofNat o.exitCode

end Blocklist.Main

def main (args : List String) : IO UInt32 := do
  match Blocklist.Arguments.read args with
  | .ok c =>
    try
      Blocklist.Main.runCommand c
    catch e =>
      IO.eprintln (Blocklist.Command.errorLine (toString e))
      return UInt32.ofNat Blocklist.Command.writeCode
  | .error _ =>
    let o := Blocklist.Command.runWith .empty args
    Blocklist.Main.printLines (fun s => IO.println s) o.output
    Blocklist.Main.printLines (fun s => IO.eprintln s) o.errors
    return UInt32.ofNat o.exitCode
