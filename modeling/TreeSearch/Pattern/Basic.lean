import TreeSearch.Pattern.Footprint
import TreeSearch.Pattern.Literals
import TreeSearch.Pattern.Match
import TreeSearch.Pattern.Parser
import TreeSearch.Pattern.Resolve

/-!
# Patterns

A pattern is compiled once from its text and can then be searched for in any text. A text that
cannot be compiled is rejected as a whole.
-/

namespace TreeSearch

/-- A compiled pattern and the text it was compiled from. -/
structure Pattern where
  source : String
  expr : Pattern.Expr Unicode.CodeSet Pattern.Look

namespace Pattern

/-- Compiles the text of a pattern. -/
def compile (source : String) : Except Fault Pattern := do
  let written ← Written.parse source
  let (form, _) ← written.resolve {}
  if form.fits || form.isLiteralSearch then .ok ⟨source, form.expr⟩ else .error .tooLarge

/-- Whether the pattern occurs in the text. -/
def isMatch (p : Pattern) (text : String) : Bool := p.expr.isMatch text

end Pattern

end TreeSearch
