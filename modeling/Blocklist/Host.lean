import Blocklist.Text.Blank
import Blocklist.Text.AsciiCase
import Blocklist.Text.Parts
/-!
Host names and domains. A domain covers itself and every host that ends with a dot and the domain;
`covers_iff` states this in terms of texts.
-/

namespace Blocklist.Host

open Text

def isHostChar (c : Char) : Bool :=
  c.isAlphanum || c == '.' || c == '-' || c == '_'

def hasEmptyLabel : List Char → Bool
  | '.' :: '.' :: _ => true
  | _ :: cs => hasEmptyLabel cs
  | [] => false

/-- Whether a text is usable as a host name: it is not empty, does not start with a dot, has no two
adjacent dots and consists of ASCII letters, digits, dots, hyphens and underscores. -/
def isValid (h : List Char) : Bool :=
  !h.isEmpty && h.head? != some '.' && !hasEmptyLabel h && h.all isHostChar

/-- The lower-case form of a domain without surrounding blanks and dots, if that is a valid host. -/
def normalizeChars? (domain : List Char) : Option (List Char) :=
  let trimmed := dropEndWhile (· == '.') ((trimChars domain).dropWhile (· == '.'))
  let lowered := trimmed.map Char.toLower
  if isValid lowered then some lowered else none

/-- The lower-case form of a domain without surrounding blanks and dots, if that is a valid host. -/
def normalize? (domain : String) : Option String :=
  (normalizeChars? domain.toList).map String.ofList

/-- A host without its leftmost label. There is none for a single label, with or without a dot. -/
def parentChars? (h : List Char) : Option (List Char) :=
  match cut? '.' h with
  | some (_, c :: cs) => some (c :: cs)
  | _ => none

/-- A host without its leftmost label. There is none for a single label, with or without a dot. -/
def parent? (h : String) : Option String :=
  (parentChars? h.toList).map String.ofList

/-- The labels of a host, from left to right. -/
def labels (h : String) : List String :=
  (parts '.' h.toList).map String.ofList

/-- Whether a host is equal to a domain or one of its subdomains. -/
def coversChars (domain host : List Char) : Bool :=
  host == domain || ('.' :: domain).isSuffixOf host

/-- Whether a host is equal to a domain or one of its subdomains. -/
def covers (domain host : String) : Bool :=
  coversChars domain.toList host.toList

theorem coversChars_iff {domain host : List Char} :
    coversChars domain host ↔ host = domain ∨ ('.' :: domain) <:+ host := by
  simp [coversChars]

/-- A domain covers exactly itself and the texts that end with a dot and the domain. -/
theorem covers_iff {domain host : String} :
    covers domain host ↔ host = domain ∨ ('.' :: domain.toList) <:+ host.toList := by
  rw [covers, coversChars_iff, String.toList_inj]

theorem covers_refl (domain : String) : covers domain domain :=
  covers_iff.2 (.inl rfl)

end Blocklist.Host
