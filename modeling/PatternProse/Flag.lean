/-!
# Flags

The letters that may follow a regular expression literal, with their names and meanings.

## Main definitions

* `Flag.ofChar?`, `Flag.char` — a flag and its letter.
* `Flag.explanation` — the name and the effect of a flag.
-/

namespace PatternProse

/-- A known flag of a regular expression. -/
inductive Flag
  | global
  | ignoreCase
  | multiline
  | dotAll
  | unicode
  | sticky
  deriving Repr, DecidableEq

namespace Flag

/-- All flags in their usual order. -/
def all : List Flag := [global, ignoreCase, multiline, dotAll, unicode, sticky]

/-- The letter of a flag. -/
def char : Flag → Char
  | global => 'g'
  | ignoreCase => 'i'
  | multiline => 'm'
  | dotAll => 's'
  | unicode => 'u'
  | sticky => 'y'

/-- The flag with the given letter. -/
def ofChar? (c : Char) : Option Flag := all.find? (·.char == c)

/-- The place of a flag in the usual order. -/
def index (f : Flag) : Nat := all.idxOf f

/-- The name of a flag. -/
def name : Flag → String
  | global => "Global"
  | ignoreCase => "Case Insensitive"
  | multiline => "Multiline"
  | dotAll => "Dot All"
  | unicode => "Unicode"
  | sticky => "Sticky"

/-- What a flag does, in one sentence. -/
def description : Flag → String
  | global => "Find all matches rather than stopping after the first match"
  | ignoreCase => "Match will be case-insensitive"
  | multiline => "^ and $ match start/end of line in addition to start/end of string"
  | dotAll => ". matches newline characters as well"
  | unicode => "Pattern is treated as a sequence of Unicode code points"
  | sticky => "Matches only from the index indicated by lastIndex property"

/-- The name of a flag and what it does. -/
def explanation (f : Flag) : String := s!"{f.name}: {f.description}"

/-- Whether a flag string has the letter of the flag. -/
def isIn (f : Flag) (flags : String) : Bool := flags.toList.contains f.char

theorem ofChar?_char (f : Flag) : ofChar? f.char = some f := by cases f <;> rfl

end Flag

end PatternProse
