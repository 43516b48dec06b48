import TreeSchema.Pattern.Reader
import TreeSchema.Pattern.Mode
import TreeSchema.Pattern.Weight

/-!
# Patterns

A pattern is a regular expression that a text satisfies when some part of it
matches. Patterns are Unicode-aware, and deciding a match takes time bounded by
the product of the sizes of pattern and text.
-/

namespace TreeSchema

structure Pattern where
  matcher : Pattern.Matcher CharSet Pattern.Test

namespace Pattern

/-- The pattern that a text denotes, or `none` when it is not a pattern. -/
def ofString? (text : String) : Option Pattern := do
  let (matcher, _) ← (← Expr.ofText? text).toMatcher .initial
  guard (matcher.weight ≤ greatestWeight)
  return ⟨matcher⟩

def matchesText (pattern : Pattern) (text : String) : Bool :=
  pattern.matcher.matchesText text.toList

end Pattern

end TreeSchema
