import PatternProse.Span
import PatternProse.Flag
import PatternProse.Pattern
import PatternProse.Regex.Matcher

/-!
# Finding matches

Matches of a regular expression in a sample text. Without the flag `g` only the first one counts.
With `y` the first one has to start the text and every other one has to start where the one before
it stops.

## Main definitions

* `Match` — a match: what part of the text it covers and what its capture groups hold.
* `Regex.nextMatch?` — the first match from a position on.
* `findMatches` — the matches of a pattern that its flags ask for.
-/

namespace PatternProse

/-- A match of a regular expression in a text. A capture group that took no part has no text. -/
structure Match where
  span : Span
  text : String
  groups : List (Option String)
  deriving Repr, DecidableEq

/-- Whether a match covers no text. -/
def Match.isEmpty (m : Match) : Bool := m.span.isEmpty

/-- The byte offset of each position between characters, from `offset` on. -/
def byteOffsets (offset : Nat) : List Char → List Nat
  | [] => [offset]
  | c :: cs => offset :: byteOffsets (offset + c.utf8Size) cs

/-- A text prepared for matching. -/
structure Subject where
  chars : Array Char
  /-- The byte offset of each position between characters. -/
  offsets : Array Nat
  deriving Repr

namespace Subject

/-- Prepares a text for matching. -/
def ofString (text : String) : Subject :=
  ⟨text.toList.toArray, (byteOffsets 0 text.toList).toArray⟩

/-- The byte offset of a position between characters. -/
def offset (s : Subject) (i : Nat) : Nat := s.offsets[i]?.getD 0

/-- The text between two positions. -/
def slice (s : Subject) (start stop : Nat) : String :=
  String.ofList (s.chars.extract start stop).toList

end Subject

namespace Regex

/-- Where a match starts, and the state in which it ends. -/
structure Found where
  start : Nat
  final : MatchState
  deriving Repr, DecidableEq

namespace Found

/-- The position from which the search goes on after a match: where the match stops, but at least
one character further on than it starts. -/
def resume (f : Found) : Nat := max f.final.position (f.start + 1)

/-- The match that has been found. -/
def toMatch (f : Found) (s : Subject) : Match where
  span := ⟨s.offset f.start, s.offset f.final.position⟩
  text := s.slice f.start f.final.position
  groups := f.final.captures.toList.map (·.map fun (start, stop) => s.slice start stop)

end Found

/-- The first match that starts at a position or after it. -/
def nextMatch? (re : Regex) (text : Array Char) (start : Nat) : Option Found :=
  if start ≤ text.size then
    match re.matchAt? text start with
    | some final => some ⟨start, final⟩
    | none => nextMatch? re text (start + 1)
  else
    none
termination_by text.size + 1 - start

theorem start_nextMatch? {re : Regex} {text : Array Char} {start : Nat} {f : Found}
    (h : re.nextMatch? text start = some f) : start ≤ f.start ∧ f.start ≤ text.size := by
  fun_induction nextMatch? re text start with
  | case1 start hs final _ => cases h; exact ⟨Nat.le_refl _, hs⟩
  | case2 start _ _ ih =>
    have := ih h
    omega
  | case3 => cases h

/-- The matches from a position on. With `sticky` each has to start where the one before it stops,
the first one at `expected`; without `global` there is at most one. -/
def matchesFrom (re : Regex) (text : Array Char) (global sticky : Bool) (expected start : Nat) :
    List Found :=
  match _h : re.nextMatch? text start with
  | none => []
  | some f =>
    if sticky && f.start != expected then []
    else if global then f :: matchesFrom re text global sticky f.final.position f.resume
    else [f]
termination_by text.size + 1 - start
decreasing_by
  have := start_nextMatch? _h
  simp only [Found.resume]
  omega

end Regex

/-- The matches of a pattern in a text that the flags ask for. -/
def findMatches (pattern flags text : String) : Except InvalidPattern (List Match) :=
  match compile pattern flags with
  | .error e => .error e
  | .ok re =>
    let subject := Subject.ofString text
    let found := re.matchesFrom subject.chars (Flag.global.isIn flags) (Flag.sticky.isIn flags) 0 0
    .ok (found.map (·.toMatch subject))

theorem findMatches_of_compile {pattern flags : String} {re : Regex}
    (h : compile pattern flags = .ok re) (text : String) :
    findMatches pattern flags text = .ok ((re.matchesFrom (Subject.ofString text).chars
      (Flag.global.isIn flags) (Flag.sticky.isIn flags) 0 0).map
        (·.toMatch (Subject.ofString text))) := by
  rw [findMatches, h]

end PatternProse
