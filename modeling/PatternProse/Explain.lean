import PatternProse.Pattern
import PatternProse.PatternInput
import PatternProse.Scan

/-!
# Explaining patterns

A pattern is explained only if it is valid. An empty one has nothing to explain and is not even
checked.
-/

namespace PatternProse

/-- The explanation of a pattern and its flags. -/
def explain (pattern flags : String) : Except InvalidPattern Explanation :=
  if pattern.isEmpty then
    .ok {}
  else
    match validate pattern flags with
    | .ok () => .ok ⟨pattern, flags, explainPattern pattern, explainFlags flags⟩
    | .error e => .error e

/-- The explanation of a text that is either a literal or a bare pattern. -/
def explainInput (text separateFlags : String) : Except InvalidPattern Explanation :=
  let input := PatternInput.ofText text separateFlags
  explain input.pattern input.flags

end PatternProse
