import Blocklist.Pattern.CharSet
/-!
The names that properties go by in patterns. Letter case, blanks, hyphens, underscores and a leading
`is` do not matter in a name.
-/

namespace Blocklist.Pattern.Property

/-- A name in lower case, without separators and characters outside ASCII. -/
def bareName (cs : List Char) : String :=
  String.ofList ((cs.filter fun c => c.toNat < 0x80 && c != ' ' && c != '_' && c != '-').map
    Char.toLower)

/-- The form in which names are compared. The name `isc` keeps its first letters, so that it does
not read as `c`. -/
def normalName (cs : List Char) : String :=
  match cs with
  | i :: s :: rest =>
    if i.toLower = 'i' ∧ s.toLower = 's' then
      let bare := bareName rest
      if bare = "c" then "isc" else bare
    else bareName cs
  | _ => bareName cs

def ofCategoryName? (name : String) : Option Property :=
  match name with
  | "any" => some .any
  | "assigned" => some .assigned
  | "ascii" => some .ascii
  | _ => (Unicode.generalCategoryNames.find? name).map .category

def ofClassName? (s : Unicode.Segmentation) (name : String) : Option Property :=
  (s.classNames.find? name).map (.segment s)

/-- The property of a name alone: one that a code point has or lacks, a general category or a
script. -/
def ofName? (cs : List Char) : Option Property :=
  let name := normalName cs
  ((Unicode.binaryPropertyNames.find? name).map Property.binary).orElse fun _ =>
    (ofCategoryName? name).orElse fun _ => (Unicode.scriptNames.find? name).map .script

def ofNameAndValue? (cs vs : List Char) : Option Property :=
  let value := normalName vs
  match normalName cs with
  | "gc" | "generalcategory" => ofCategoryName? value
  | "sc" | "script" => (Unicode.scriptNames.find? value).map .script
  | "scx" | "scriptextensions" => (Unicode.scriptNames.find? value).map .scriptExtension
  | "age" => (Unicode.versionNames.find? value).map .age
  | "gcb" | "graphemeclusterbreak" => ofClassName? .grapheme value
  | "wb" | "wordbreak" => ofClassName? .word value
  | "sb" | "sentencebreak" => ofClassName? .sentence value
  | _ => none

end Blocklist.Pattern.Property
