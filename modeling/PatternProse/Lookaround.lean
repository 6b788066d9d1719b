/-!
# Lookarounds

The four assertions about the text on one side of a position. The explainer describes them, the
regular expressions match them, and blocks write them.
-/

namespace PatternProse

/-- An assertion that what follows, or what comes before, matches or does not match. -/
inductive Lookaround
  | ahead
  | notAhead
  | behind
  | notBehind
  deriving Repr, DecidableEq

namespace Lookaround

/-- What follows the opening parenthesis of the assertion. -/
def mark : Lookaround → List Char
  | ahead => ['?', '=']
  | notAhead => ['?', '!']
  | behind => ['?', '<', '=']
  | notBehind => ['?', '<', '!']

/-- Whether the assertion is about the text before the position. -/
def isBehind : Lookaround → Bool
  | ahead | notAhead => false
  | behind | notBehind => true

/-- Whether the assertion asks that there be no match. -/
def isNegative : Lookaround → Bool
  | ahead | behind => false
  | notAhead | notBehind => true

end Lookaround

end PatternProse
