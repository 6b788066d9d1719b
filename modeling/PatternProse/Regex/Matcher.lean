import PatternProse.Regex.Node

/-!
# Matching

Backtracking search for the match that a regular expression prefers. A node is run from a state
with a continuation that decides whether what follows matches as well; choices are tried in order
of preference and the first one that the continuation accepts counts.

## Main definitions

* `MatchState` — a position in the text and what the capture groups hold.
* `Node.run` — runs a node.
* `Regex.matchAt?` — the match that starts at a position.

Inside of an assertion about the text before a position, nodes are run from right to left.
-/

namespace PatternProse

namespace Regex

/-- A position in the text, counted in characters, and what the capture groups hold: the positions
around the text that each has matched last. -/
structure MatchState where
  position : Nat
  captures : Array (Option (Nat × Nat))
  deriving Repr, DecidableEq

/-- What decides whether the rest of an expression matches. -/
abbrev Continuation := MatchState → Option MatchState

namespace MatchState

/-- Lets a capture group hold the text between two positions. -/
def capture (st : MatchState) (index here there : Nat) : MatchState :=
  { st with captures := st.captures.setIfInBounds index (some (min here there, max here there)) }

/-- Empties capture groups. -/
def clear (st : MatchState) (groups : GroupRange) : MatchState :=
  if groups.first < groups.stop then
    { st with
      captures := st.captures.mapIdx fun i held =>
        if groups.first ≤ i && i < groups.stop then none else held }
  else
    st

/-- What a capture group holds. -/
def held? (st : MatchState) (index : Nat) : Option (Nat × Nat) := (st.captures[index]?).join

/-- The number of characters that are left in the direction of the match. -/
def remaining (text : Array Char) (back : Bool) (st : MatchState) : Nat :=
  if back then st.position else text.size - st.position

/-- Moves over the next character in the direction of the match, if `p` accepts it. -/
def read? (text : Array Char) (back : Bool) (p : Nat → Bool) (st : MatchState) :
    Option MatchState :=
  if back then
    match st.position with
    | 0 => none
    | i + 1 => if (text[i]?).any (fun c => p c.toNat) then some { st with position := i } else none
  else if (text[st.position]?).any (fun c => p c.toNat) then
    some { st with position := st.position + 1 }
  else
    none

/-- Moves over a copy of the text between two positions. -/
def readCopy? (text : Array Char) (back : Bool) (casing : Casing) (held : Nat × Nat)
    (st : MatchState) : Option MatchState :=
  let size := held.2 - held.1
  let first := if back then st.position - size else st.position
  let same (i : Nat) : Bool :=
    match text[held.1 + i]?, text[first + i]? with
    | some a, some b => casing.same a.toNat b.toNat
    | _, _ => false
  if size ≤ st.remaining text back && (List.range size).all same then
    some { st with position := if back then st.position - size else st.position + size }
  else
    none

end MatchState

/-- Whether a character of a word stands at a position. -/
def isWordAt (text : Array Char) (i : Nat) : Bool :=
  (text[i]?).any fun c => CharClass.word.contains c.toNat

/-- Whether a line ends with the character at a position. -/
def isLineEndAt (text : Array Char) (i : Nat) : Bool :=
  (text[i]?).any fun c => CharClass.lineEnd.contains c.toNat

/-- Whether an assertion holds at a position. -/
def Assertion.holds (text : Array Char) (i : Nat) : Assertion → Bool
  | start multiline => i == 0 || multiline && isLineEndAt text (i - 1)
  | stop multiline => i == text.size || multiline && isLineEndAt text i
  | wordBoundary negated => ((i != 0 && isWordAt text (i - 1)) != isWordAt text i) != negated

/-- Runs a body as often as it is required. -/
def runRequired (body : MatchState → Continuation → Option MatchState) (groups : GroupRange) :
    Nat → MatchState → Continuation → Option MatchState
  | 0, st, k => k st
  | n + 1, st, k => body (st.clear groups) fun st => runRequired body groups n st k

/-- Runs a body as often as it is allowed, preferably often if `greedy`. A run that does not move
on is rejected. -/
def runOptional (body : MatchState → Continuation → Option MatchState) (groups : GroupRange)
    (greedy : Bool) (remaining : MatchState → Nat) (max : Option Nat) (st : MatchState)
    (k : Continuation) : Option MatchState :=
  if max == some 0 then
    k st
  else
    let again (_ : Unit) :=
      body (st.clear groups) fun st' =>
        if remaining st' < remaining st then
          runOptional body groups greedy remaining (max.map (· - 1)) st' k
        else
          none
    if greedy then
      match again () with
      | some found => some found
      | none => k st
    else
      match k st with
      | some found => some found
      | none => again ()
termination_by remaining st

/-- Runs a node from a state in the given direction and goes on with the continuation. -/
def Node.run (text : Array Char) (back : Bool) :
    Node → MatchState → Continuation → Option MatchState
  | empty, st, k => k st
  | char casing c, st, k => (st.read? text back (casing.same c)).bind k
  | set chars, st, k => (st.read? text back chars.contains).bind k
  | assertion a, st, k => if a.holds text st.position then k st else none
  | seq a b, st, k =>
    if back then b.run text back st fun st => a.run text back st k
    else a.run text back st fun st => b.run text back st k
  | alt a b, st, k =>
    match a.run text back st k with
    | some found => some found
    | none => b.run text back st k
  | group index body, st, k =>
    body.run text back st fun st' => k (st'.capture index st.position st'.position)
  | reference casing index, st, k =>
    match st.held? index with
    | some held => (st.readCopy? text back casing held).bind k
    | none => k st
  | look kind body, st, k =>
    match body.run text kind.isBehind st some with
    | some found => if kind.isNegative then none else k { found with position := st.position }
    | none => if kind.isNegative then k st else none
  | quantified r groups body, st, k =>
    let required := if body.isStationary then min r.min 1 else r.min
    runRequired (body.run text back) groups required st fun st =>
      runOptional (body.run text back) groups r.greedy (·.remaining text back)
        (r.max.map (· - r.min)) st k

/-- The match that starts at a position. -/
def matchAt? (re : Regex) (text : Array Char) (start : Nat) : Option MatchState :=
  re.node.run text false ⟨start, Array.replicate re.groups.length none⟩ some

end Regex

end PatternProse
