/-!
# Problems with documents

What may be wrong with the text of a document, and where. Places are byte offsets; they become
lines and columns when a problem is reported.

A reader that skips a value is content with less than one that takes it in, and one that only
wants to see an array end is content with nothing else. So a place where a text stops being JSON
is a problem that depends on the reader.

## Main definitions

* `SyntaxProblem` — why a text is not JSON, or nests too deep.
* `Problem` — a cause at a place.
* `Fault` — a place where a text stops being JSON.
-/

namespace PatternProse.Json

/-- A reason why a text is not JSON, or not JSON that is taken in. -/
inductive SyntaxProblem
  | endInValue
  | endInArray
  | endInObject
  | endInString
  | expectedValue
  | expectedIdentifier
  | expectedColon
  | expectedCommaOrBracket
  | expectedCommaOrBrace
  | trailingComma
  | trailingCharacters
  | keyNotString
  | invalidEscape
  | unfinishedSurrogatePair
  | loneSurrogate
  | controlCharacter
  | invalidNumber
  | numberOutOfRange
  | tooDeep
  deriving Repr, DecidableEq

/-- The wording of a problem. -/
def SyntaxProblem.message : SyntaxProblem → String
  | endInValue => "EOF while parsing a value"
  | endInArray => "EOF while parsing a list"
  | endInObject => "EOF while parsing an object"
  | endInString => "EOF while parsing a string"
  | expectedValue => "expected value"
  | expectedIdentifier => "expected ident"
  | expectedColon => "expected `:`"
  | expectedCommaOrBracket => "expected `,` or `]`"
  | expectedCommaOrBrace => "expected `,` or `\x7d`"
  | trailingComma => "trailing comma"
  | trailingCharacters => "trailing characters"
  | keyNotString => "key must be a string"
  | invalidEscape => "invalid escape"
  | unfinishedSurrogatePair => "unexpected end of hex escape"
  | loneSurrogate => "lone leading surrogate in hex escape"
  | controlCharacter => "control character (\\u0000-\\u001F) found while parsing a string"
  | invalidNumber => "invalid number"
  | numberOutOfRange => "number out of range"
  | tooDeep => "recursion limit exceeded"

/-- A cause of trouble at a place, which is the number of bytes before it. -/
structure Problem (α : Type) where
  cause : α
  offset : Nat
  deriving Repr, DecidableEq

/-- A place where a text stops being JSON: the problem for a reader that takes values in, for one
that skips them, and for one that expects an array to end. -/
structure Fault where
  asTaken : Problem SyntaxProblem
  asSkipped : Problem SyntaxProblem
  asEnding : Problem SyntaxProblem
  deriving Repr, DecidableEq

/-- A fault that is the same problem for every reader. -/
def Fault.uniform (p : Problem SyntaxProblem) : Fault := ⟨p, p, p⟩

/-- The line and the column of a place in a text: one more than the line ends before it, and the
bytes since the last one. -/
def lineAndColumn (offset : Nat) (cs : List Char) : Nat × Nat :=
  go 1 0 offset cs
where
  /-- Counts on from a line and a column, with `left` bytes to go. -/
  go (line column left : Nat) : List Char → Nat × Nat
    | [] => (line, column)
    | c :: cs =>
      if left == 0 then (line, column)
      else if left < c.utf8Size then (line, column + left)
      else if c == '\n' then go (line + 1) 0 (left - 1) cs
      else go line (column + c.utf8Size) (left - c.utf8Size) cs

end PatternProse.Json
