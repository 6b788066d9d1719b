import PatternProse.Flag
import PatternProse.Prose

/-!
# Scanning a pattern

The fragments of a pattern are its explained tokens, each with its place in the source and with
the number of levels open around it. An opener opens a level and a closing parenthesis closes one;
a closing parenthesis with no level to close starts the outermost level afresh.

## Main definitions

* `Levels` — the open levels, with the item that a quantifier would repeat on each.
* `explainPattern` — the fragments of a pattern; it never fails.
* `explainFlags` — the fragments of a flag string, one for each letter.
-/

namespace PatternProse

/-- The open levels of a pattern that is being scanned. The item of a level is the last fragment
on it, those of closed levels inside it included, or nothing if it has no fragment yet. -/
structure Levels where
  /-- The item of the innermost level. -/
  item : Option (List Char) := none
  /-- The items of the levels around it, from the inside out. -/
  outer : List (Option (List Char)) := []
  deriving Repr, DecidableEq

namespace Levels

/-- The number of levels around the innermost one. -/
def depth (ls : Levels) : Nat := ls.outer.length

/-- Closes the innermost level, which leaves its last fragment to the level around it. -/
def close : Levels → Levels
  | ⟨_, []⟩ => ⟨none, []⟩
  | ⟨item, around :: outer⟩ => ⟨item.or around, outer⟩

/-- The levels after a token. -/
def after (ls : Levels) : Token → Levels
  | .close => ls.close
  | .opener o => ⟨none, some o.text :: ls.outer⟩
  | t => ⟨some t.text, ls.outer⟩

end Levels

/-- The fragments of tokens that start at a byte offset inside of open levels. -/
def fragmentsFrom (ls : Levels) (offset : Nat) : List Token → List Fragment
  | [] => []
  | t :: ts =>
    let stop := offset + utf8Length t.text
    let rest := fragmentsFrom (ls.after t) stop ts
    match t.explain? ls.item with
    | some (kind, sentence) =>
      ⟨String.ofList t.text, sentence, ls.depth, ⟨offset, stop⟩, kind⟩ :: rest
    | none => rest

/-- The fragments of a pattern, whether or not it is a valid one. -/
def explainPattern (pattern : String) : List Fragment :=
  fragmentsFrom {} 0 (Token.list pattern.toList)

/-- The sentence that explains a letter of a flag string. -/
def flagSentence (c : Char) : String :=
  match Flag.ofChar? c with
  | some flag => flag.explanation
  | none => "Unknown flag: " ++ String.singleton c

/-- The fragments of flag letters that start at a byte offset. -/
def flagFragmentsFrom (offset : Nat) : List Char → List Fragment
  | [] => []
  | c :: cs =>
    let stop := offset + c.utf8Size
    ⟨String.singleton c, flagSentence c, 0, ⟨offset, stop⟩, .flag⟩ :: flagFragmentsFrom stop cs

/-- The fragments of a flag string: unknown letters and repeated ones are explained too. -/
def explainFlags (flags : String) : List Fragment := flagFragmentsFrom 0 flags.toList

end PatternProse
