import Blocklist.Unicode.GeneralCategory
import Blocklist.Unicode.BinaryProperty
/-!
Texts between quotation marks, for messages. Characters that cannot be seen are written as escapes,
so a quoted text shows on one line what it is made of.
-/

namespace Blocklist.Text

/-- Whether a character is visible on its own: no control, format or unassigned character, no blank
but the space, and no mark that joins the character in front. -/
def isVisible (c : Char) : Bool :=
  if c.toNat < 0x80 then ' ' ≤ c && c ≤ '~'
  else
    !(Unicode.graphemeExtend.contains c.toNat || Unicode.inGeneralCategory "C" c.toNat ||
      Unicode.inGeneralCategory "Z" c.toNat)

/-- A character as it is written in a quoted text. -/
def quotedChar (c : Char) : List Char :=
  match c with
  | '\x00' => ['\\', '0']
  | '\t' => ['\\', 't']
  | '\n' => ['\\', 'n']
  | '\r' => ['\\', 'r']
  | '"' => ['\\', '"']
  | '\\' => ['\\', '\\']
  | _ =>
    if isVisible c then [c]
    else ['\\', 'u', '\x7b'] ++ Nat.toDigits 16 c.toNat ++ ['\x7d']

def quoted (s : String) : String :=
  String.ofList ('"' :: s.toList.flatMap quotedChar ++ ['"'])

end Blocklist.Text
