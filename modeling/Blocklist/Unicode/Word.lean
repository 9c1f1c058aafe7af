import Blocklist.Unicode.GeneralCategory
import Blocklist.Unicode.BinaryProperty
/-!
The characters of words, digits, and characters of names. ASCII characters are decided without a
table.
-/

namespace Blocklist.Unicode

def isAsciiWord (n : Nat) : Bool :=
  (0x30 ≤ n && n ≤ 0x39) || (0x41 ≤ n && n ≤ 0x5a) || n == 0x5f || (0x61 ≤ n && n ≤ 0x7a)

/-- Whether a code point is a character of words: a letter, a mark, a decimal digit, connecting
punctuation or a join control. -/
def isWord (n : Nat) : Bool :=
  if n < 0x80 then isAsciiWord n
  else alphabetic.contains n || inGeneralCategory "M" n || inGeneralCategory "Nd" n ||
    inGeneralCategory "Pc" n || joinControl.contains n

def isDigit (n : Nat) : Bool :=
  if n < 0x80 then 0x30 ≤ n && n ≤ 0x39 else inGeneralCategory "Nd" n

def isSpace (n : Nat) : Bool :=
  (9 ≤ n && n ≤ 13) || n == 0x20 || (0x80 ≤ n && whiteSpace.contains n)

def isLetterOrNumber (n : Nat) : Bool :=
  alphabetic.contains n || inGeneralCategory "N" n

end Blocklist.Unicode
