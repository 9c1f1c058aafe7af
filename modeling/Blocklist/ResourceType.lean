import Blocklist.Text.Blank
import Blocklist.Text.AsciiCase
/-!
The kinds of resources, and sets of kinds. A set of kinds that a rule asks for is a mask; an empty
mask asks for nothing in particular.
-/

namespace Blocklist

open Text

/-- The kinds of resources. -/
inductive ResourceType where
  | script
  | image
  | stylesheet
  | font
  | media
  | subdocument
  | xmlhttprequest
  | other
deriving DecidableEq, Repr

namespace ResourceType

def all : List ResourceType :=
  [script, image, stylesheet, font, media, subdocument, xmlhttprequest, other]

def name : ResourceType → String
  | script => "script"
  | image => "image"
  | stylesheet => "stylesheet"
  | font => "font"
  | media => "media"
  | subdocument => "subdocument"
  | xmlhttprequest => "xmlhttprequest"
  | other => "other"

/-- The name of a kind in compiled rules. Two kinds share the name `raw`. -/
def hostName : ResourceType → String
  | script => "script"
  | image => "image"
  | stylesheet => "style-sheet"
  | font => "font"
  | media => "media"
  | subdocument => "document"
  | xmlhttprequest => "raw"
  | other => "raw"

/-- The kind that a name stands for: its name in descriptors or in compiled rules, or the name that
browsers give it. Surrounding blanks and letter case do not matter. -/
def ofName? (s : String) : Option ResourceType :=
  match lower (trim s) with
  | "script" => some script
  | "image" => some image
  | "stylesheet" | "style-sheet" => some stylesheet
  | "font" => some font
  | "media" => some media
  | "subdocument" | "sub_frame" | "document" => some subdocument
  | "xmlhttprequest" | "xhr" | "raw" | "fetch" => some xmlhttprequest
  | "other" => some other
  | _ => none

def index : ResourceType → Nat
  | script => 0
  | image => 1
  | stylesheet => 2
  | font => 3
  | media => 4
  | subdocument => 5
  | xmlhttprequest => 6
  | other => 7

end ResourceType

/-- A set of kinds of resources. -/
structure TypeMask where
  /-- Whether a kind is in the set. -/
  bits : BitVec 8
deriving DecidableEq, Repr

namespace TypeMask

def empty : TypeMask := ⟨0⟩

instance : Inhabited TypeMask := ⟨empty⟩

def single (t : ResourceType) : TypeMask := ⟨BitVec.twoPow 8 t.index⟩

def union (m n : TypeMask) : TypeMask := ⟨m.bits ||| n.bits⟩

def inter (m n : TypeMask) : TypeMask := ⟨m.bits &&& n.bits⟩

def contains (m : TypeMask) (t : ResourceType) : Bool := m.bits.getLsbD t.index

def isEmpty (m : TypeMask) : Bool := m.bits == 0

def toList (m : TypeMask) : List ResourceType :=
  ResourceType.all.filter m.contains

def ofList (ts : List ResourceType) : TypeMask :=
  ts.foldl (fun m t => m.union (single t)) empty

/-- The set of the kinds that names stand for; a name that stands for none is left out. -/
def ofNames (names : List String) : TypeMask :=
  ofList (names.filterMap ResourceType.ofName?)

/-- The single kind of a set, if it has exactly one. -/
def single? (m : TypeMask) : Option ResourceType :=
  ResourceType.all.find? fun t => m == single t

/-- The name of the single kind of a set; any other set goes by the name `other`. -/
def name (m : TypeMask) : String :=
  (m.single?.map ResourceType.name).getD "other"

/-- The name of the single kind of a set in compiled rules; any other set goes by the name `raw`. -/
def hostName (m : TypeMask) : String :=
  (m.single?.map ResourceType.hostName).getD "raw"

/-- The names in compiled rules of the kinds in a set, in order and each once. -/
def hostNames (m : TypeMask) : List String :=
  m.toList.foldl
    (fun names t => if names.contains t.hostName then names else names ++ [t.hostName]) []

/-- Whether a rule for this set of kinds applies to a request. An empty set applies to every
request; any other one to requests of known kinds that it shares a kind with. -/
def admits (m : TypeMask) (requested : Option TypeMask) : Bool :=
  m.isEmpty || requested.any fun r => !(m.inter r).isEmpty

end TypeMask

end Blocklist
