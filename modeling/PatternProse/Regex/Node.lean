import PatternProse.Lookaround
import PatternProse.Regex.CharClass

/-!
# Regular expressions

The syntax tree of a regular expression. Flags are resolved while the tree is built, so a node says
by itself what it matches.

## Main definitions

* `Node` — a syntax tree.
* `Regex` — a syntax tree with its capture groups.
-/

namespace PatternProse

namespace Regex

/-- A condition on a position. -/
inductive Assertion
  /-- The start of the text, or with `multiline` of a line. -/
  | start (multiline : Bool)
  /-- The end of the text, or with `multiline` of a line. -/
  | stop (multiline : Bool)
  /-- A border between a character of a word and any other, or with `negated` no such border. -/
  | wordBoundary (negated : Bool)
  deriving Repr, DecidableEq

/-- How often a node is repeated: at least `min` times, at most `max` times if that is given, and
as often as possible if it is greedy. -/
structure Repetition where
  min : Nat
  max : Option Nat
  greedy : Bool
  deriving Repr, DecidableEq

/-- Capture groups `first`, `first + 1`, … below `stop`. -/
structure GroupRange where
  first : Nat
  stop : Nat
  deriving Repr, DecidableEq

/-- The syntax tree of a regular expression. Capture groups are numbered from zero. -/
inductive Node
  | empty
  | char (casing : Casing) (c : Nat)
  | set (chars : CharClass)
  | assertion (a : Assertion)
  | seq (first second : Node)
  | alt (first second : Node)
  | group (index : Nat) (body : Node)
  /-- A back reference to a capture group. -/
  | reference (casing : Casing) (index : Nat)
  | look (kind : Lookaround) (body : Node)
  /-- A quantified term, with the capture groups that stand in it. -/
  | quantified (repetition : Repetition) (groups : GroupRange) (body : Node)
  deriving Repr, DecidableEq

namespace Node

/-- Nodes one after another. -/
def sequence : List Node → Node
  | [] => empty
  | [n] => n
  | n :: ns => seq n (sequence ns)

/-- The first of several nodes, or else the next, and so on. -/
def choice (n : Node) : List Node → Node
  | [] => n
  | m :: ns => alt n (choice m ns)

/-- Whether the node matches without moving on, wherever it matches. -/
def isStationary : Node → Bool
  | empty | assertion _ | look .. => true
  | char .. | set _ | reference .. => false
  | seq a b | alt a b => a.isStationary && b.isStationary
  | group _ body => body.isStationary
  | quantified r _ body => r.max == some 0 || body.isStationary

/-- The number of quantified terms. -/
def quantifiedCount : Node → Nat
  | empty | char .. | set _ | assertion _ | reference .. => 0
  | seq a b | alt a b => a.quantifiedCount + b.quantifiedCount
  | group _ body | look _ body => body.quantifiedCount
  | quantified _ _ body => body.quantifiedCount + 1

end Node

end Regex

/-- A regular expression: its syntax tree and the names of its capture groups in order, a group
without a name having none. -/
structure Regex where
  node : Regex.Node
  groups : List (Option String)
  deriving Repr, DecidableEq

end PatternProse
