import Blocklist.Unicode.Word
import Blocklist.Unicode.Script
import Blocklist.Unicode.Age
import Blocklist.Unicode.Segmentation
import Blocklist.Unicode.CaseFolding
/-!
Sets of code points, as expressions over ranges and properties. Membership is decided by `contains`;
no set is ever listed.
-/

namespace Blocklist.Pattern

/-- A property of code points. -/
inductive Property where
  | word
  | digit
  | space
  | any
  | ascii
  | assigned
  | category (name : String)
  | script (name : String)
  | scriptExtension (name : String)
  | age (version : String)
  | segment (s : Unicode.Segmentation) (name : String)
  | binary (name : String)
deriving DecidableEq, Repr

namespace Property

def holds : Property → Nat → Bool
  | word, n => Unicode.isWord n
  | digit, n => Unicode.isDigit n
  | space, n => Unicode.isSpace n
  | any, _ => true
  | ascii, n => n < 0x80
  | assigned, n => !Unicode.inGeneralCategory "Cn" n
  | category name, n => Unicode.inGeneralCategory name n
  | script name, n => Unicode.inScript name n
  | scriptExtension name, n => Unicode.inScriptExtension name n
  | age version, n => Unicode.assignedBy version n
  | segment s name, n => s.hasClass name n
  | binary name, n => ((Unicode.binaryProperties.lookup name).map (·.contains n)).getD false

end Property

/-- An expression for a set of code points. -/
inductive CharSet where
  | empty
  | range (lo hi : Nat)
  | property (p : Property)
  | union (s t : CharSet)
  | inter (s t : CharSet)
  | compl (s : CharSet)
  /-- Everything that differs from a member in case alone. -/
  | foldCase (s : CharSet)
  /-- Everything that differs from a member in the case of an ASCII letter alone. -/
  | foldAsciiCase (s : CharSet)
deriving DecidableEq, Repr

namespace CharSet

def contains : CharSet → Nat → Bool
  | empty, _ => false
  | range lo hi, n => lo ≤ n && n ≤ hi
  | property p, n => p.holds n
  | union s t, n => s.contains n || t.contains n
  | inter s t, n => s.contains n && t.contains n
  | compl s, n => !s.contains n
  | foldCase s, n => (Unicode.orbit n).any s.contains
  | foldAsciiCase s, n => (Unicode.asciiCaseOrbit n).any s.contains

def char (c : Char) : CharSet := range c.toNat c.toNat

def all : CharSet := range 0 Unicode.lastCodePoint

/-- The code points of the first set that are not in the second. -/
def diff (s t : CharSet) : CharSet := inter s (compl t)

def symmDiff (s t : CharSet) : CharSet := union (diff s t) (diff t s)

def ofRanges (rs : List (Char × Char)) : CharSet :=
  rs.foldr (fun r s => union (range r.1.toNat r.2.toNat) s) empty

instance : Membership Char CharSet := ⟨fun s c => s.contains c.toNat⟩

instance (s : CharSet) (c : Char) : Decidable (c ∈ s) :=
  inferInstanceAs (Decidable (s.contains c.toNat = true))

theorem mem_def {s : CharSet} {c : Char} : c ∈ s ↔ s.contains c.toNat := Iff.rfl

end CharSet

end Blocklist.Pattern
