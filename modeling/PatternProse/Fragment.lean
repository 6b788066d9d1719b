import PatternProse.Span

/-!
# Explained fragments

An explanation is a flat list of fragments in the order of the source. Nesting shows only in the
depth of a fragment: what a container holds follows its opening token, one level deeper.

## Main definitions

* `Fragment` — one explained piece of a pattern or of a flag string.
* `Explanation` — the fragments of a pattern together with those of its flags.
-/

namespace PatternProse

/-- What a fragment is a piece of. -/
inductive FragmentKind
  | literal
  | characterSet
  | escape
  | quantifier
  | group
  | lookaround
  | anchor
  | alternation
  | anyCharacter
  | flag
  deriving Repr, DecidableEq

namespace FragmentKind

/-- The name under which a kind is written out. -/
def name : FragmentKind → String
  | literal => "literal"
  | characterSet => "characterSet"
  | escape => "escape"
  | quantifier => "quantifier"
  | group => "group"
  | lookaround => "lookaround"
  | anchor => "anchor"
  | alternation => "alternation"
  | anyCharacter => "anyCharacter"
  | flag => "flag"

/-- Whether fragments of this kind open a deeper level. -/
def isContainer (k : FragmentKind) : Bool := k == group || k == lookaround

end FragmentKind

/-- A piece of the source with the sentence that explains it. -/
structure Fragment where
  sourceText : String
  explanation : String
  depth : Nat
  span : Span
  kind : FragmentKind
  deriving Repr, DecidableEq

/-- A pattern and its flags with the fragments that explain both. -/
structure Explanation where
  pattern : String := ""
  flags : String := ""
  fragments : List Fragment := []
  flagFragments : List Fragment := []
  deriving Repr, DecidableEq

namespace Explanation

/-- Whether there is nothing to show. -/
def isEmpty (e : Explanation) : Bool := e.fragments.isEmpty && e.flagFragments.isEmpty

/-- The pattern and its flags between slashes. -/
def literal (e : Explanation) : String := "/" ++ e.pattern ++ "/" ++ e.flags

end Explanation

end PatternProse
