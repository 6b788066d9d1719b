import PatternProse.Regex.Parser

/-!
# Valid patterns

A pattern is valid under some flags if it stands for a regular expression. A pattern that does not
is refused with the first problem in it.
-/

namespace PatternProse

/-- A pattern that stands for no regular expression under its flags, and why. -/
structure InvalidPattern where
  pattern : String
  flags : String
  cause : Regex.SyntaxError
  deriving Repr, DecidableEq

namespace InvalidPattern

/-- Why the pattern is refused. -/
def detail (e : InvalidPattern) : String := e.cause.message

/-- The full wording of the refusal. -/
def message (e : InvalidPattern) : String :=
  "Invalid regular expression: /" ++ e.pattern ++ "/" ++ e.flags ++ ": " ++ e.detail

end InvalidPattern

/-- The regular expression that a pattern stands for under the flags of a flag string. -/
def compile (pattern flags : String) : Except InvalidPattern Regex :=
  match Regex.ofPattern pattern flags with
  | .ok re => .ok re
  | .error cause => .error ⟨pattern, flags, cause⟩

/-- Refuses a pattern that is not valid. -/
def validate (pattern flags : String) : Except InvalidPattern Unit :=
  match compile pattern flags with
  | .ok _ => .ok ()
  | .error e => .error e

/-- Whether a pattern is valid. -/
def isValid (pattern flags : String) : Bool := (validate pattern flags).isOk

theorem isValid_iff {pattern flags : String} :
    isValid pattern flags = true ↔ ∃ re, compile pattern flags = .ok re := by
  unfold isValid validate
  cases compile pattern flags <;> simp [Except.isOk, Except.toBool]

end PatternProse
