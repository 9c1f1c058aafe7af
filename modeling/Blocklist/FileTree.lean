import Blocklist.Text.AsciiCase
import Blocklist.Text.Parts
import Blocklist.Text.Utf8
/-!
Trees of files and directories, as values. A path is the list of the names on the way down from the
root of the tree; the root is a directory.
-/

namespace Blocklist

open Text

/-- The names on the way from the root of a tree to one of its entries. -/
abbrev Path := List String

namespace Path

/-- Goes on from a path to a name. `.` stays where it is, and `..` goes back where there is a name
to go back from. -/
def step (p : Path) (name : String) : Path :=
  if name == "" || name == "." then p
  else if name == ".." then
    match p.getLast? with
    | some "" => p
    | some ".." | none => p ++ [name]
    | some _ => p.dropLast
  else p ++ [name]

/-- The path that a text with slashes stands for. A path that starts with a slash starts with an
empty name. -/
def ofText (s : String) : Path :=
  let start := if s.toList.head? = some '/' then [""] else []
  ((parts '/' s.toList).map String.ofList).foldl step start

def toText (p : Path) : String :=
  "/".intercalate p

/-- The directories above a path, the root first. -/
def ancestors (p : Path) : List Path :=
  (List.range p.length).map p.take

/-- The name of a file, cut at its last dot. A dot in front of the name does not count. -/
def cutName (name : List Char) : List Char × Option (List Char) :=
  let extension := (name.reverse.takeWhile (· != '.')).reverse
  let stem := (name.reverse.dropWhile (· != '.')).reverse.dropLast
  if stem.isEmpty then (name, none) else (stem, some extension)

/-- The name of a file without its extension. -/
def stem? (p : Path) : Option String :=
  p.getLast?.map fun name => String.ofList (cutName name.toList).1

def hasExtension (extension : String) (p : Path) : Bool :=
  p.getLast?.any fun name =>
    (cutName name.toList).2.any (equalIgnoringCase extension.toList)

/-- Whether a path comes no later than another. The names are compared one after the other. -/
def comesFirst : Path → Path → Bool
  | [], _ => true
  | _ :: _, [] => false
  | a :: p, b :: q => a < b || (a == b && comesFirst p q)

end Path

/-- What a path leads to. -/
inductive FileEntry where
  | file (bytes : List UInt8)
  /-- A file that cannot be opened. -/
  | locked
  | directory
deriving DecidableEq

def FileEntry.isFile : FileEntry → Bool
  | file _ => true
  | locked => true
  | directory => false

/-- Why a file cannot be read or written. -/
inductive FileError where
  | notFound
  | permissionDenied
  | isADirectory
  /-- A file stands in the place of a directory on the way. -/
  | notADirectory
  /-- A file stands in the place of a directory that is to be made. -/
  | alreadyExists
  /-- The file is no text. -/
  | invalidData
deriving DecidableEq, Repr

def FileError.name : FileError → String
  | notFound => "NotFound"
  | permissionDenied => "PermissionDenied"
  | isADirectory => "IsADirectory"
  | notADirectory => "NotADirectory"
  | alreadyExists => "AlreadyExists"
  | invalidData => "InvalidData"

/-- A tree of files and directories. The root has no entry. -/
structure FileTree where
  entries : List (Path × FileEntry)
  /-- Each path has at most one entry. -/
  unique : (entries.map Prod.fst).Nodup
deriving DecidableEq

namespace FileTree

def empty : FileTree := ⟨[], .nil⟩

instance : Inhabited FileTree := ⟨empty⟩

def entry? (t : FileTree) : Path → Option FileEntry
  | [] => some .directory
  | p => t.entries.lookup p

def isDirectory (t : FileTree) (p : Path) : Bool :=
  t.entry? p == some .directory

def isFile (t : FileTree) (p : Path) : Bool :=
  (t.entry? p).any FileEntry.isFile

/-- Puts an entry at a path, in place of what is there. -/
def put (t : FileTree) (p : Path) (e : FileEntry) : FileTree where
  entries := (p, e) :: t.entries.filter (·.1 != p)
  unique := by
    rw [List.map_cons, List.nodup_cons]
    refine ⟨fun h => ?_, (List.filter_sublist.map Prod.fst).nodup t.unique⟩
    obtain ⟨entry, hentry, hp⟩ := List.mem_map.mp h
    simpa [hp] using (List.mem_filter.mp hentry).2

def putDirectories (t : FileTree) (ps : List Path) : FileTree :=
  ps.foldl (fun t p => if (t.entry? p).isNone then t.put p .directory else t) t

def place (t : FileTree) (p : Path) (e : FileEntry) : FileTree :=
  (t.putDirectories p.ancestors).put p e

/-- Why nothing can be found at a path: the first ancestor that is no directory. -/
def obstacle (t : FileTree) (p : Path) : FileError :=
  match p.ancestors.find? (!t.isDirectory ·) with
  | some a => if t.isFile a then .notADirectory else .notFound
  | none => .notFound

def readBytes (t : FileTree) (p : Path) : Except FileError (List UInt8) :=
  match t.entry? p with
  | some (.file bytes) => .ok bytes
  | some .locked => .error .permissionDenied
  | some .directory => .error .isADirectory
  | none => .error (t.obstacle p)

def readText (t : FileTree) (p : Path) : Except FileError String := do
  match ofBytes? (← t.readBytes p) with
  | some s => return s
  | none => throw .invalidData

/-- Makes a directory and those above it, where there are none. -/
def makeDirectory (t : FileTree) (p : Path) : Except FileError FileTree :=
  if t.isFile p then .error .alreadyExists
  else if p.ancestors.any t.isFile then .error .notADirectory
  else .ok (t.putDirectories (p.ancestors ++ [p]))

def writeText (t : FileTree) (p : Path) (s : String) : Except FileError FileTree :=
  if t.isDirectory p then .error .isADirectory
  else if t.entry? p = some .locked then .error .permissionDenied
  else if p.ancestors.all t.isDirectory then .ok (t.put p (.file s.toUTF8.toList))
  else .error (t.obstacle p)

/-- The files below a directory at any depth, in the order of their paths. A file counts as the only
one below itself. There is no answer if nothing is there. -/
def filesBelow? (t : FileTree) (p : Path) : Option (List Path) :=
  match t.entry? p with
  | none => none
  | some .directory =>
    let paths := (t.entries.map Prod.fst).filter fun q => p.isPrefixOf q && t.isFile q
    some (paths.mergeSort Path.comesFirst)
  | some _ => some [p]

end FileTree

end Blocklist
