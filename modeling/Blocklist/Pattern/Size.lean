import Blocklist.Pattern.Meaning
/-!
Limits on the size of matchers. What a pattern takes depends on how matchers are built. All that is
asked of a limit is that a run of parts keeps to it when something is left out, or when a slash
stands in the place of another character.
-/

namespace Blocklist.Pattern

/-- A limit on the size of matchers. -/
class SizeLimit where
  /-- Whether the matcher for a tree is small enough that is read in a mode. -/
  fits : Mode → Ast → Bool
  /-- There is room for a matcher of any line. -/
  fits_line {m : Mode} : fits m (.repetition .dot .zeroOrMore)
  /-- The last parts are left out. -/
  fits_of_append {m : Mode} {es fs : List Ast} :
    fits m (.ofParts (es ++ fs)) → fits m (.ofParts es)
  /-- A character is left out, with the counts on it. -/
  fits_of_literal {m : Mode} {es fs : List Ast} {l : Literal} {counts : List Count} :
    fits m (.ofParts (es ++ (Ast.literal l).repeated counts :: fs)) → fits m (.ofParts (es ++ fs))
  /-- The marks on a character are left out. -/
  fits_of_marks {m : Mode} {es fs : List Ast} {l : Literal} {counts : List Count}
    (hmarks : ∀ n ∈ counts, n.isNumeric = false) :
    fits m (.ofParts (es ++ (Ast.literal l).repeated counts :: fs)) →
      fits m (.ofParts (es ++ .literal l :: fs))
  /-- A slash stands in the place of a character, under the same counts. -/
  fits_of_slash {m : Mode} {es fs : List Ast} {l : Literal} {counts : List Count} :
    fits m (.ofParts (es ++ (Ast.literal l).repeated counts :: fs)) →
      fits m (.ofParts (es ++ (Ast.literal ⟨'/', false⟩).repeated counts :: fs))

end Blocklist.Pattern
