/-!
# Errors in regular expressions

Why a pattern is no regular expression. The first problem from the left is reported.
-/

namespace PatternProse.Regex

/-- A reason to refuse a pattern. -/
inductive SyntaxError
  | unbalancedParenthesis
  | unbalancedBracket
  | invalidAtom
  | invalidBracedQuantifier
  | invalidQuantifier
  | quantifierNotAllowed
  | invalidGroupName
  | duplicateGroupName
  | invalidGroupModifier
  | reversedRange
  | invalidRange
  | incompleteEscape
  | unterminatedEscape
  | invalidCharacterEscape
  | invalidUnicodeEscape
  | invalidPropertyStart
  | invalidPropertyName
  | malformedNamedReference
  | unknownNamedReference (name : String)
  deriving Repr, DecidableEq

/-- The wording of an error. -/
def SyntaxError.message : SyntaxError → String
  | unbalancedParenthesis => "Unbalanced parenthesis"
  | unbalancedBracket => "Unbalanced bracket"
  | invalidAtom => "Invalid atom character"
  | invalidBracedQuantifier => "Invalid braced quantifier"
  | invalidQuantifier => "Invalid quantifier"
  | quantifierNotAllowed => "Quantifier not allowed here"
  | invalidGroupName => "Invalid token at named capture group identifier"
  | duplicateGroupName => "Duplicate capture group name"
  | invalidGroupModifier => "Invalid group modifier"
  | reversedRange => "Range values reversed, start char code is greater than end char code."
  | invalidRange => "Invalid character range"
  | incompleteEscape => "Incomplete escape"
  | unterminatedEscape => "Unterminated escape"
  | invalidCharacterEscape => "Invalid character escape"
  | invalidUnicodeEscape => "Invalid unicode escape"
  | invalidPropertyStart => "Invalid character at property escape start"
  | invalidPropertyName => "Invalid property name"
  | malformedNamedReference => "Unexpected end of named backreference"
  | unknownNamedReference name => "Backreference to invalid named capture group: " ++ name

end PatternProse.Regex
