import Blocklist.Pattern.Parser
import Blocklist.Pattern.Search
import Blocklist.Pattern.Size
/-!
Patterns that are ready to be searched for.
-/

namespace Blocklist

/-- A pattern that is ready to be searched for. -/
structure Pattern where
  expr : Pattern.Expr
deriving DecidableEq, Repr

namespace Pattern

/-- Why a text cannot be used as a pattern. -/
inductive Error where
  /-- It is not written in the grammar of patterns. -/
  | malformed
  /-- It could match a part of a character. -/
  | meaningless
  /-- A matcher for it would be too large. -/
  | tooLarge
deriving DecidableEq, Repr

variable [SizeLimit]

def compileChars (text : List Char) (mode : Mode) : Except Error Pattern :=
  match parse? text with
  | none => .error .malformed
  | some ast =>
    match ast.toExpr? mode with
    | none => .error .meaningless
    | some (e, _) => if SizeLimit.fits mode ast then .ok ⟨e⟩ else .error .tooLarge

def compile (text : String) (mode : Mode) : Except Error Pattern :=
  compileChars text.toList mode

def isMatch (p : Pattern) (text : String) : Bool :=
  p.expr.occursIn text.toList

end Pattern

end Blocklist
