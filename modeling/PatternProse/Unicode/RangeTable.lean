import PatternProse.Hexadecimal

/-!
# Tables of code points

A set of code points is kept as a list of ranges, and a large set is written down as lines of
text: the ranges in rising order, each as two hexadecimal numbers, the count of code points
skipped since the last range and the count of code points after the first.

## Main definitions

* `CodeRange` — code points from one to another.
* `CodeRange.ofLines` — the ranges that lines of text write down.
-/

namespace PatternProse.Unicode

/-- The code points from `first` to `last`, both included. -/
structure CodeRange where
  first : Nat
  last : Nat
  deriving Repr, DecidableEq, Inhabited

namespace CodeRange

/-- Whether a code point lies in the range. -/
def contains (r : CodeRange) (c : Nat) : Bool := r.first ≤ c && c ≤ r.last

/-- Whether a code point lies in one of the ranges. -/
def anyContains (rs : List CodeRange) (c : Nat) : Bool := rs.any (·.contains c)

/-- The hexadecimal numbers of a text, which are parted by blanks; `n` is the number read so
far. -/
def numbers (n : Nat) : List Char → List Nat
  | [] => [n]
  | ' ' :: cs => n :: numbers 0 cs
  | c :: cs => numbers (16 * n + (Hexadecimal.digitValue? c).getD 0) cs

/-- The ranges given by pairs of skipped and further code points, from `next` on. -/
def ofGaps (next : Nat) : List Nat → List CodeRange
  | gap :: more :: rest => ⟨next + gap, next + gap + more⟩ :: ofGaps (next + gap + more + 1) rest
  | _ => []

/-- The ranges that lines of text write down. -/
def ofLines (lines : List String) : List CodeRange :=
  ofGaps 0 (lines.flatMap fun line => numbers 0 line.toList)

end CodeRange

end PatternProse.Unicode
