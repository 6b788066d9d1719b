import PatternProse.Lookaround
import PatternProse.Quantifier

/-!
# Kinds of blocks

The kinds of blocks that a pattern is put together from, what they are called in documents and how
they are presented to someone who picks one.

## Main definitions

* `Symbol` — what one fixed token of a pattern stands for.
* `Quantifier.Form` — a quantifier without its counts.
* `Block.Kind` — a kind of block, with `Block.Kind.all`, the list of them, and
  `Block.Kind.ofName?`, the kind with a given name.
-/

namespace PatternProse

/-- What one fixed token of a pattern stands for: a class of characters or a place in a text. -/
inductive Symbol
  | anyChar
  | digit
  | nonDigit
  | word
  | nonWord
  | whitespace
  | nonWhitespace
  | startOfLine
  | endOfLine
  | wordBoundary
  | nonWordBoundary
  deriving Repr, DecidableEq

/-- The token that stands for a symbol. -/
def Symbol.chars : Symbol → List Char
  | anyChar => ['.']
  | digit => ['\\', 'd']
  | nonDigit => ['\\', 'D']
  | word => ['\\', 'w']
  | nonWord => ['\\', 'W']
  | whitespace => ['\\', 's']
  | nonWhitespace => ['\\', 'S']
  | startOfLine => ['^']
  | endOfLine => ['$']
  | wordBoundary => ['\\', 'b']
  | nonWordBoundary => ['\\', 'B']

namespace Quantifier

/-- A quantifier without its counts. -/
inductive Form
  | zeroOrMore
  | oneOrMore
  | zeroOrOne
  | exactly
  | atLeast
  | between
  deriving Repr, DecidableEq

/-- The form of a quantifier. -/
def form : Quantifier → Form
  | zeroOrMore => .zeroOrMore
  | oneOrMore => .oneOrMore
  | zeroOrOne => .zeroOrOne
  | exactly _ => .exactly
  | atLeast _ => .atLeast
  | between _ _ => .between

end Quantifier

namespace Block

/-- A kind of block. -/
inductive Kind
  | literal
  | symbol (symbol : Symbol)
  | repetition (form : Quantifier.Form)
  | group
  | alternatives
  | characterClass (negated : Bool)
  | lookaround (kind : Lookaround)
  deriving Repr, DecidableEq

/-- How a block holds other blocks. -/
inductive Nesting
  /-- No other blocks. -/
  | leaf
  /-- Blocks that match one after the other. -/
  | sequence
  /-- Blocks of which one matches. -/
  | alternation
  /-- At most one block. -/
  | singleChild
  deriving Repr, DecidableEq

/-- The name of a way of nesting. -/
def Nesting.name : Nesting → String
  | leaf => "leaf"
  | sequence => "sequence"
  | alternation => "alternation"
  | singleChild => "singleChild"

namespace Kind

/-- All kinds, in the order in which they are presented. -/
def all : List Kind :=
  [literal, symbol .anyChar, symbol .digit, symbol .nonDigit, symbol .word, symbol .nonWord,
    symbol .whitespace, symbol .nonWhitespace, symbol .startOfLine, symbol .endOfLine,
    symbol .wordBoundary, symbol .nonWordBoundary, repetition .zeroOrMore, repetition .oneOrMore,
    repetition .zeroOrOne, repetition .exactly, repetition .atLeast, repetition .between, group,
    alternatives, characterClass false, characterClass true, lookaround .ahead,
    lookaround .notAhead, lookaround .behind, lookaround .notBehind]

/-- The name of a kind in documents. -/
def name : Kind → String
  | literal => "literal"
  | symbol .anyChar => "anyChar"
  | symbol .digit => "digit"
  | symbol .nonDigit => "nonDigit"
  | symbol .word => "word"
  | symbol .nonWord => "nonWord"
  | symbol .whitespace => "whitespace"
  | symbol .nonWhitespace => "nonWhitespace"
  | symbol .startOfLine => "startOfLine"
  | symbol .endOfLine => "endOfLine"
  | symbol .wordBoundary => "wordBoundary"
  | symbol .nonWordBoundary => "nonWordBoundary"
  | repetition .zeroOrMore => "zeroOrMore"
  | repetition .oneOrMore => "oneOrMore"
  | repetition .zeroOrOne => "zeroOrOne"
  | repetition .exactly => "exactly"
  | repetition .atLeast => "atLeast"
  | repetition .between => "between"
  | group => "group"
  | alternatives => "or"
  | characterClass false => "characterClass"
  | characterClass true => "negatedCharacterClass"
  | lookaround .ahead => "lookahead"
  | lookaround .notAhead => "negativeLookahead"
  | lookaround .behind => "lookbehind"
  | lookaround .notBehind => "negativeLookbehind"

/-- The kind with a given name. -/
def ofName? (name : String) : Option Kind := all.find? (·.name == name)

/-- A short title. -/
def label : Kind → String
  | literal => "Text"
  | symbol .anyChar => "Any Character"
  | symbol .digit => "Digit"
  | symbol .nonDigit => "Non-Digit"
  | symbol .word => "Word Character"
  | symbol .nonWord => "Non-Word Character"
  | symbol .whitespace => "Whitespace"
  | symbol .nonWhitespace => "Non-Whitespace"
  | symbol .startOfLine => "Start of Line"
  | symbol .endOfLine => "End of Line"
  | symbol .wordBoundary => "Word Boundary"
  | symbol .nonWordBoundary => "Non-Word Boundary"
  | repetition .zeroOrMore => "Zero or More"
  | repetition .oneOrMore => "One or More"
  | repetition .zeroOrOne => "Zero or One"
  | repetition .exactly => "Exactly"
  | repetition .atLeast => "At Least"
  | repetition .between => "Between"
  | group => "Group"
  | alternatives => "Or"
  | characterClass false => "Character Class"
  | characterClass true => "Negated Char Class"
  | lookaround .ahead => "Lookahead"
  | lookaround .notAhead => "Neg. Lookahead"
  | lookaround .behind => "Lookbehind"
  | lookaround .notBehind => "Neg. Lookbehind"

/-- What a block of the kind does. -/
def description : Kind → String
  | literal => "Match exact text"
  | symbol .anyChar => "Match any single character except newline"
  | symbol .digit => "Match any digit (0-9)"
  | symbol .nonDigit => "Match any non-digit character"
  | symbol .word => "Match any word character (a-z, A-Z, 0-9, _)"
  | symbol .nonWord => "Match any non-word character"
  | symbol .whitespace => "Match any whitespace character (space, tab, newline)"
  | symbol .nonWhitespace => "Match any non-whitespace character"
  | symbol .startOfLine => "Match the start of a line"
  | symbol .endOfLine => "Match the end of a line"
  | symbol .wordBoundary => "Match a word boundary position"
  | symbol .nonWordBoundary => "Match a non-word boundary position"
  | repetition .zeroOrMore => "Match the previous item zero or more times"
  | repetition .oneOrMore => "Match the previous item one or more times"
  | repetition .zeroOrOne => "Match the previous item zero or one time"
  | repetition .exactly => "Match the previous item exactly n times"
  | repetition .atLeast => "Match the previous item at least n times"
  | repetition .between => "Match the previous item between n and m times"
  | group => "Group multiple items together"
  | alternatives => "Match either the expression before or after the |"
  | characterClass false => "Match any one character in the set"
  | characterClass true => "Match any one character not in the set"
  | lookaround .ahead => "Assert that the following characters match"
  | lookaround .notAhead => "Assert that the following characters do NOT match"
  | lookaround .behind => "Assert that the preceding characters match"
  | lookaround .notBehind => "Assert that the preceding characters do NOT match"

/-- How a block of the kind holds other blocks. -/
def nesting : Kind → Nesting
  | literal | symbol _ | characterClass _ => .leaf
  | repetition _ => .singleChild
  | group | lookaround _ => .sequence
  | alternatives => .alternation

/-- Whether a block of the kind can hold other blocks. -/
def supportsNesting (kind : Kind) : Bool := kind.nesting != .leaf

theorem mem_all (kind : Kind) : kind ∈ all := by
  cases kind with
  | literal | group | alternatives => decide
  | symbol s => cases s <;> decide
  | repetition f => cases f <;> decide
  | characterClass b => cases b <;> decide
  | lookaround k => cases k <;> decide

/-- No two kinds have one name. -/
theorem nodup_map_name_all : (all.map name).Nodup := by decide

/-- A kind is found by its name. -/
theorem ofName?_name (kind : Kind) : ofName? kind.name = some kind := by
  have h : ∀ kind ∈ all, ofName? kind.name = some kind := by decide
  exact h kind (mem_all kind)

/-- A kind found by a name has that name. -/
theorem name_of_ofName? {name : String} {kind : Kind} (h : ofName? name = some kind) :
    kind.name = name := by
  simpa using List.find?_some h

end Kind

end Block

end PatternProse
