import Blocklist.Punycode
import Blocklist.Text.Parts
import Blocklist.Unicode.Composition
import Blocklist.Unicode.Direction
import Blocklist.Unicode.GeneralCategory
import Blocklist.Unicode.HostMapping
/-!
Host names in ASCII. A host name in any script is first brought into a uniform spelling; then each
label outside ASCII is written in Punycode behind `xn--`. Labels that already have that mark are
checked, and so is the order of characters that are written from right to left.
-/

namespace Blocklist.Host

open Text Unicode

def punycodeMark : List Char := ['x', 'n', '-', '-']

/-- The greatest length of a label that is written in Punycode. -/
def maxLabelLength : Nat := 1000

def spelling? (n : Nat) : Option (List Nat) :=
  if n < 0x80 then some [(Char.ofNat n).toLower.toNat] else replacement? n

/-- The uniform spelling of a host name, if all its characters may be used. -/
def spell? (host : List Nat) : Option (List Nat) :=
  (host.mapM spelling?).map fun ns => composed ns.flatten

def isSpelled (label : List Nat) : Bool :=
  label.all (fun n => spelling? n == some [n]) && composed label == label

/-- Whether the last of some code points, given in reverse, is a sign that joins consonants. -/
def endsInVirama (before : List Nat) : Bool :=
  before.head?.any fun n => combiningClass n == 9

/-- Whether the letters on both sides of a place, transparent characters aside, join each other. -/
def joinsAcross (before after : List Nat) : Bool :=
  let letter (ns : List Nat) : String :=
    ((ns.dropWhile fun n => joining n == "T").head?).elim "U" joining
  (letter before == "L" || letter before == "D") && (letter after == "R" || letter after == "D")

def joinersFit (before : List Nat) : List Nat → Bool
  | [] => true
  | n :: ns =>
    (if n == 0x200c then endsInVirama before || joinsAcross before ns
      else n != 0x200d || endsInVirama before) && joinersFit (n :: before) ns

/-- Whether a label outside ASCII may be used: it starts with no mark, and its joiners fit. -/
def isUsable (label : List Nat) : Bool :=
  !label.head?.any (inGeneralCategory "M") && joinersFit [] label

def isRightToLeft (n : Nat) : Bool :=
  ["R", "AL", "AN"].contains (direction n)

/-- Whether the characters of a label keep their order next to labels from right to left. The
classes of the characters decide: the first one gives the order of the label, and what it may
contain and end with depends on that. -/
def keepsOrder (label : List Nat) : Bool :=
  let classes := label.map direction
  let last := (classes.reverse.dropWhile (· == "NSM")).head?
  match classes.head? with
  | none => true
  | some first =>
    if first == "L" then
      classes.all ["L", "EN", "ES", "CS", "ET", "ON", "BN", "NSM"].contains &&
        last.any ["L", "EN"].contains
    else if first == "R" || first == "AL" then
      classes.all ["R", "AL", "AN", "EN", "ES", "CS", "ET", "ON", "BN", "NSM"].contains &&
        last.any ["R", "AL", "EN", "AN"].contains &&
        !(classes.contains "EN" && classes.contains "AN")
    else false

/-- A label in its two forms: as it is read, and in ASCII. -/
structure Label where
  read : List Nat
  ascii : List Char
deriving DecidableEq

def label? (ns : List Nat) : Option Label :=
  let cs := ns.map Char.ofNat
  if punycodeMark.isPrefixOf cs then
    let code := cs.drop punycodeMark.length
    if code.getLast?.all (· == '-') then none
    else
      (Punycode.decode? code).bind fun text =>
        let read := text.map Char.toNat
        if isSpelled read && isUsable read then some ⟨read, cs⟩ else none
  else if ns.all (· < 0x80) then some ⟨ns, cs⟩
  else if isUsable ns && ns.length ≤ maxLabelLength then
    some ⟨ns, punycodeMark ++ Punycode.encode cs⟩
  else none

/-- A host name in ASCII, if its characters and labels may be used. -/
def toAscii? (host : List Char) : Option (List Char) :=
  (spell? (host.map Char.toNat)).bind fun ns =>
    ((parts '.' (ns.map Char.ofNat)).mapM fun cs => label? (cs.map Char.toNat)).bind fun labels =>
      if labels.any (·.read.any isRightToLeft) && !labels.all (keepsOrder ·.read) then none
      else some (joined '.' (labels.map (·.ascii)))

end Blocklist.Host
