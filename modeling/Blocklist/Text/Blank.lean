/-!
Blank characters, and trimming a text of them. A character is blank when it has the `White_Space`
property; the property has twenty-five members, all listed here.
-/

namespace Blocklist.Text

def isBlank (c : Char) : Bool :=
  ('\t' ≤ c && c ≤ '\r') || c == ' ' || c == '\u0085' || c == '\u00a0' || c == '\u1680' ||
    ('\u2000' ≤ c && c ≤ '\u200a') || c == '\u2028' || c == '\u2029' || c == '\u202f' ||
    c == '\u205f' || c == '\u3000'

/-- Removes the longest run of matching items at the end of a list. -/
def dropEndWhile {α : Type u} (p : α → Bool) (xs : List α) : List α :=
  (xs.reverse.dropWhile p).reverse

def trimChars (cs : List Char) : List Char :=
  dropEndWhile isBlank (cs.dropWhile isBlank)

def trim (s : String) : String :=
  String.ofList (trimChars s.toList)

theorem dropEndWhile_append_of_neg {α : Type u} {p : α → Bool} {x : α} (xs : List α)
    (h : ¬ p x) : dropEndWhile p (xs ++ [x]) = xs ++ [x] := by
  simp [dropEndWhile, h]

end Blocklist.Text
