/-!
Letter case of ASCII text. Letters outside ASCII have no case here and stay as they are.
-/

namespace Blocklist.Text

/-- The lower-case form of a text, letters outside ASCII unchanged. -/
def lower (s : String) : String :=
  String.ofList (s.toList.map Char.toLower)

/-- Whether two character sequences are equal when the case of ASCII letters is ignored. -/
def equalIgnoringCase (xs ys : List Char) : Bool :=
  xs.map Char.toLower == ys.map Char.toLower

theorem equalIgnoringCase_iff {xs ys : List Char} :
    equalIgnoringCase xs ys ↔ xs.map Char.toLower = ys.map Char.toLower := by
  simp [equalIgnoringCase]

end Blocklist.Text
