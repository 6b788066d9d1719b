import PatternProse.Block.Document
import PatternProse.Block.Pattern
import PatternProse.Explain
import PatternProse.Match

/-!
# Trying out documents

A document of blocks is tried out on a text: it gives a pattern, the pattern is explained, and its
matches in the text are found.
-/

namespace PatternProse.Block

/-- A pattern made of blocks, with its explanation and its matches in a text. -/
structure Trial where
  pattern : String
  explanation : Explanation
  found : List Match
  deriving Repr, DecidableEq

/-- Why a document cannot be tried out. -/
inductive TrialProblem
  | blocks (problem : InvalidBlocks)
  | pattern (problem : InvalidPattern)
  deriving Repr, DecidableEq

/-- The answer of a pattern's check. -/
def orInvalidPattern {α : Type} : Except InvalidPattern α → Except TrialProblem α
  | .ok a => .ok a
  | .error p => .error (.pattern p)

/-- Tries out a document on a text. -/
def tryOut (document flags text : String) : Except TrialProblem Trial :=
  match ofDocument? document with
  | .error p => .error (.blocks (.document p))
  | .ok bs => do
    let pattern := formatAll bs
    let explanation ← orInvalidPattern (explain pattern flags)
    let found ← orInvalidPattern (findMatches pattern flags text)
    return ⟨pattern, explanation, found⟩

end PatternProse.Block
