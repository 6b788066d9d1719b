import PatternProse.Proofs.Regex.Reading

/-!
# What blocks are read as

The reading of a block is a tree that mirrors the block. What the pattern of a block is read as is
told without the pattern: the readings of the blocks that it holds are put together in the way of
its kind.

## Main definitions

* `Symbol.node` — the node of a symbol.
* `Block.reading` — what the pattern of a block is read as.
-/

namespace PatternProse

open Regex

/-- The node of a symbol. -/
def Symbol.node (flags : Flags) : Symbol → Node
  | anyChar => .set (.dot flags.dotAll)
  | digit => .set (.ofItem CharClass.digit)
  | nonDigit => .set (.ofItem CharClass.digit.complement)
  | word => .set (.ofItem CharClass.word)
  | nonWord => .set (.ofItem CharClass.word.complement)
  | whitespace => .set (.ofItem CharClass.space)
  | nonWhitespace => .set (.ofItem CharClass.space.complement)
  | startOfLine => .assertion (.start flags.multiline)
  | endOfLine => .assertion (.stop flags.multiline)
  | wordBoundary => .assertion (.wordBoundary false)
  | nonWordBoundary => .assertion (.wordBoundary true)

namespace Block

/-- The reading of characters that stand for themselves. -/
def readingOfChars (cs : List Char) : Reading where
  branches flags _ := [cs.map fun c => .char flags.casing c.toNat]
  groups := 0

mutual

/-- What the pattern of a block is read as. -/
def reading : Block → Reading
  | literal text => readingOfChars text.toList
  | symbol s => .term s.node
  | repetition q body =>
    .quantified (.ofQuantifier q)
      (if (charsOfBody body).isEmpty then .term (Symbol.node · .anyChar) else readingOfBody body)
  | group bs => .enclosed .capture 1 (.concat (readings bs))
  | alternatives bs =>
    if bs.isEmpty then .alternatives [readingOfChars ['a'], readingOfChars ['b']]
    else .alternatives (readings bs)
  | characterClass negated characters =>
    .term fun flags => .set (.ofChars negated flags.ignoreCase (classContents characters))
  | lookaround k bs =>
    .enclosed (fun _ => .look k) 0
      (if (bs.flatMap chars).isEmpty then readingOfChars lookaroundStandIn
        else .concat (readings bs))

/-- What the pattern of what a repetition holds is read as. -/
def readingOfBody : Option Block → Reading
  | none => .nil
  | some b => b.reading

/-- What the pattern of each of several blocks is read as. -/
def readings : List Block → List Reading
  | [] => []
  | b :: bs => b.reading :: readings bs

end

theorem readings_eq_map (bs : List Block) : readings bs = bs.map reading := by
  induction bs with
  | nil => rfl
  | cons b bs ih => rw [readings, ih, List.map_cons]

/-- What the pattern of what a repetition repeats is read as. -/
def repeatedReading (body : Option Block) : Reading :=
  if (charsOfBody body).isEmpty then .term (Symbol.node · .anyChar) else readingOfBody body

theorem reading_repetition (q : Quantifier) (body : Option Block) :
    (repetition q body).reading = .quantified (.ofQuantifier q) (repeatedReading body) := by
  rw [reading, repeatedReading]

end Block

end PatternProse
