import PatternProse.Regex.AtomEscape

/-!
# Reading regular expressions

A pattern is read from left to right, a term with its quantifier at a time. The groups that are
open at a point wait on a stack, so that one pass over the pattern is enough and the first problem
from the left is the one reported.

## Main definitions

* `ParseState` — what has been read of a pattern.
* `ParseState.step` — reads one term, bar or parenthesis.
* `Regex.ofPattern` — the regular expression that a pattern stands for.
-/

namespace PatternProse

namespace Regex

/-- What a group does with what it holds. -/
inductive GroupKind
  | capture (index : Nat)
  | plain
  | look (kind : Lookaround)
  deriving Repr, DecidableEq

namespace GroupKind

/-- The node of a group around a body. -/
def node (body : Node) : GroupKind → Node
  | capture index => .group index body
  | plain => body
  | look kind => .look kind body

/-- Whether a quantifier may follow the group. The lenient grammar allows one after an assertion
about what follows. -/
def isQuantifiable (unicode : Bool) : GroupKind → Bool
  | look kind => !kind.isBehind && !unicode
  | _ => true

end GroupKind

/-- An open group, with what has been read of the level around it. -/
structure Frame where
  kind : GroupKind
  /-- The flags outside of the group. -/
  flags : Flags
  /-- The finished alternatives around the group, the latest first. -/
  alternatives : List Node
  /-- The terms of the alternative that the group stands in, the latest first. -/
  terms : List Node
  /-- The number of capture groups that open before the group. -/
  groupsBefore : Nat
  deriving Repr, DecidableEq

/-- What has been read of a pattern. -/
structure ParseState where
  flags : Flags
  /-- The finished alternatives of the innermost level, the latest first. -/
  alternatives : List Node := []
  /-- The terms of the alternative that is being read, the latest first. -/
  terms : List Node := []
  /-- The names of the capture groups opened so far, the latest first. -/
  names : List (Option String) := []
  /-- The open groups, the innermost first. -/
  frames : List Frame := []
  deriving Repr, DecidableEq

/-- The greatest count that a quantifier distinguishes; greater ones are read as this one. -/
def maxCount : Nat := 0xFFFFFFFFFFFFFFFF

/-- The count that a list of digits stands for. -/
def countOf (ds : List Char) : Nat := min (Decimal.value ds) maxCount

/-- The least and the greatest count between the braces of a quantifier, given the text after the
opening one. -/
def bracedCounts? (cs : List Char) : Option ((Nat × Option Nat) × List Char) :=
  let low := cs.takeWhile Char.isDigit
  if low.isEmpty then
    none
  else
    match cs.dropWhile Char.isDigit with
    | '}' :: rest => some ((countOf low, some (countOf low)), rest)
    | ',' :: cs =>
      let high := cs.takeWhile Char.isDigit
      match cs.dropWhile Char.isDigit with
      | '}' :: rest =>
        some ((countOf low, if high.isEmpty then none else some (countOf high)), rest)
      | _ => none
    | _ => none

/-- The counts of the quantifier that a text starts with, without its mark of laziness. -/
def counts? : List Char → Option ((Nat × Option Nat) × List Char)
  | '*' :: cs => some ((0, none), cs)
  | '+' :: cs => some ((1, none), cs)
  | '?' :: cs => some ((0, some 1), cs)
  | '{' :: cs => bracedCounts? cs
  | _ => none

theorem length_counts?_le {cs rest : List Char} {r : Nat × Option Nat}
    (h : counts? cs = some (r, rest)) : rest.length ≤ cs.length := by
  unfold counts? at h
  split at h
  iterate 3 cases h; simp
  · rename_i cs
    have h₁ := length_dropWhile_le Char.isDigit cs
    simp only [bracedCounts?] at h
    simp only [List.length_cons]
    split at h
    · cases h
    · split at h
      · rename_i heq
        rw [heq] at h₁
        cases h
        simp only [List.length_cons] at h₁
        omega
      · rename_i cs' heq
        have h₂ := length_dropWhile_le Char.isDigit cs'
        rw [heq] at h₁
        simp only [List.length_cons] at h₁
        split at h
        · rename_i heq'
          rw [heq'] at h₂
          cases h
          simp only [List.length_cons] at h₂
          omega
        · cases h
      · cases h
  · cases h

/-- Takes the mark of laziness that a text may start with: whether it has none, and what
follows. -/
def greediness : List Char → Bool × List Char
  | '?' :: cs => (false, cs)
  | cs => (true, cs)

theorem length_greediness_le (cs : List Char) : (greediness cs).2.length ≤ cs.length := by
  unfold greediness
  split <;> simp

/-- A node with the quantifier that may follow it, where the node holds the given capture groups
and `allowed` says whether it may be quantified. -/
def quantify (unicode allowed : Bool) (groups : GroupRange) (n : Node) (cs : List Char) :
    Except SyntaxError (Node × List Char) :=
  match counts? cs with
  | none =>
    if unicode && cs.head? == some '{' then .error .invalidQuantifier else .ok (n, cs)
  | some ((low, high), rest) =>
    if !allowed then .error .quantifierNotAllowed
    else if high.any (· < low) then .error .invalidQuantifier
    else
      let (greedy, rest) := greediness rest
      .ok (.quantified ⟨low, high, greedy⟩ groups n, rest)

theorem length_quantify_le {unicode allowed : Bool} {groups : GroupRange} {n m : Node}
    {cs rest : List Char} (h : quantify unicode allowed groups n cs = .ok (m, rest)) :
    rest.length ≤ cs.length := by
  unfold quantify at h
  split at h
  · split at h
    · cases h
    · cases h; exact Nat.le_refl _
  · rename_i heq
    split at h
    · cases h
    split at h
    · cases h
    · cases h
      exact Nat.le_trans (length_greediness_le _) (length_counts?_le heq)

/-- The flags that a group modifier asks for and the text after its colon. No letter may be given
twice, and after a hyphen the letters turn flags off. -/
def modifiers? (flags : Flags) (seen : List Char) (on : Bool) :
    List Char → Option (Flags × List Char)
  | [] => none
  | c :: cs =>
    if c == ':' then
      if seen.isEmpty then none else some (flags, cs)
    else if c == '-' then
      if on then modifiers? flags seen false cs else none
    else if seen.contains c then
      none
    else
      (flags.modify? c on).bind fun flags => modifiers? flags (c :: seen) on cs

theorem length_modifiers?_le {flags flags' : Flags} {seen cs rest : List Char} {on : Bool}
    (h : modifiers? flags seen on cs = some (flags', rest)) : rest.length ≤ cs.length := by
  fun_induction modifiers? flags seen on cs with
  | case1 => cases h
  | case2 => cases h
  | case3 => cases h; simp
  | case4 _ _ _ cs _ _ ih =>
    have := ih h
    simp only [List.length_cons]
    omega
  | case5 => cases h
  | case6 => cases h
  | case7 _ _ _ c cs _ _ _ ih =>
    obtain ⟨_, -, h⟩ := Option.bind_eq_some_iff.1 h
    have := ih _ h
    simp only [List.length_cons]
    omega

namespace ParseState

/-- The node of everything read on the innermost level. -/
def body (st : ParseState) : Node :=
  match (Node.sequence st.terms.reverse :: st.alternatives).reverse with
  | [] => .empty
  | n :: ns => .choice n ns

/-- Adds a term to the alternative that is being read. -/
def push (st : ParseState) (n : Node) : ParseState := { st with terms := n :: st.terms }

/-- Finishes the alternative that is being read. -/
def nextAlternative (st : ParseState) : ParseState :=
  { st with alternatives := Node.sequence st.terms.reverse :: st.alternatives, terms := [] }

/-- Opens a group whose inside is read with the given flags. -/
def enter (st : ParseState) (kind : GroupKind) (flags : Flags) (names : List (Option String)) :
    ParseState where
  flags := flags
  names := names
  frames := ⟨kind, st.flags, st.alternatives, st.terms, st.names.length⟩ :: st.frames

/-- Opens a capture group. -/
def enterCapture (st : ParseState) (name : Option String) : ParseState :=
  st.enter (.capture st.names.length) st.flags (name :: st.names)

/-- Opens the group that an opening parenthesis starts, given the text after it. -/
def openGroup (st : ParseState) : List Char → Except SyntaxError (ParseState × List Char)
  | '?' :: '=' :: cs => .ok (st.enter (.look .ahead) st.flags st.names, cs)
  | '?' :: '!' :: cs => .ok (st.enter (.look .notAhead) st.flags st.names, cs)
  | '?' :: '<' :: '=' :: cs => .ok (st.enter (.look .behind) st.flags st.names, cs)
  | '?' :: '<' :: '!' :: cs => .ok (st.enter (.look .notBehind) st.flags st.names, cs)
  | '?' :: ':' :: cs => .ok (st.enter .plain st.flags st.names, cs)
  | '?' :: '<' :: cs =>
    match groupName? ('<' :: cs) with
    | some (name, rest) => .ok (st.enterCapture (some name), rest)
    | none => .error .invalidGroupName
  | ['?'] => .error .invalidGroupName
  | '?' :: cs =>
    match modifiers? st.flags [] true cs with
    | some (flags, rest) => .ok (st.enter .plain flags st.names, rest)
    | none => .error .invalidGroupModifier
  | cs => .ok (st.enterCapture none, cs)

theorem length_openGroup_le {st st' : ParseState} {cs rest : List Char}
    (h : st.openGroup cs = .ok (st', rest)) : rest.length ≤ cs.length := by
  unfold openGroup at h
  split at h
  iterate 5 cases h; simp only [List.length_cons]; omega
  · split at h
    · rename_i heq
      have := length_groupName?_lt heq
      cases h
      simp only [List.length_cons] at this ⊢
      omega
    · cases h
  · cases h
  · split at h
    · rename_i heq
      have := length_modifiers?_le heq
      cases h
      simp only [List.length_cons]
      omega
    · cases h
  · cases h; exact Nat.le_refl _

/-- Adds a term with the quantifier that may follow it. -/
def term (st : ParseState) (allowed : Bool) (groups : GroupRange) (n : Node) (cs : List Char) :
    Except SyntaxError (ParseState × List Char) :=
  mapRead st.push (quantify st.flags.unicode allowed groups n cs)

theorem length_term_le {st st' : ParseState} {allowed : Bool} {groups : GroupRange} {n : Node}
    {cs rest : List Char} (h : st.term allowed groups n cs = .ok (st', rest)) :
    rest.length ≤ cs.length := by
  obtain ⟨_, h⟩ := of_mapRead h
  exact length_quantify_le h

/-- Adds a term that is no group. -/
def atom (st : ParseState) (n : Node) (cs : List Char) :
    Except SyntaxError (ParseState × List Char) :=
  st.term true ⟨st.names.length, st.names.length⟩ n cs

/-- Adds an anchor, which may not be quantified. -/
def anchor (st : ParseState) (a : Assertion) (cs : List Char) :
    Except SyntaxError (ParseState × List Char) :=
  st.term false ⟨st.names.length, st.names.length⟩ (.assertion a) cs

/-- Closes the innermost group. -/
def closeGroup (st : ParseState) (cs : List Char) : Except SyntaxError (ParseState × List Char) :=
  match st.frames with
  | [] => .error .unbalancedParenthesis
  | f :: frames =>
    let around : ParseState := ⟨f.flags, f.alternatives, f.terms, st.names, frames⟩
    around.term (f.kind.isQuantifiable f.flags.unicode) ⟨f.groupsBefore, st.names.length⟩
      (f.kind.node st.body) cs

/-- Adds the class that an opening bracket starts. -/
def bracket (st : ParseState) (cs : List Char) : Except SyntaxError (ParseState × List Char) :=
  let (negated, cs) :=
    match cs with
    | '^' :: cs => (true, cs)
    | cs => (false, cs)
  match classItems st.flags.unicode cs with
  | .ok (items, rest) => st.atom (.set ⟨items, negated, st.flags.ignoreCase⟩) rest
  | .error e => .error e

/-- Adds what a backslash stands for. -/
def escape (scope : Scope) (st : ParseState) (cs : List Char) :
    Except SyntaxError (ParseState × List Char) :=
  match atomEscape scope st.flags cs with
  | .ok (n, rest) => st.atom n rest
  | .error e => .error e

/-- Adds a character that stands for itself. -/
def literal (st : ParseState) (c : Char) (cs : List Char) :
    Except SyntaxError (ParseState × List Char) := st.atom (.char st.flags.casing c.toNat) cs

/-- Reads one term with its quantifier, a bar or a parenthesis, where `c` is the next character
and `cs` the text after it. -/
def step (scope : Scope) (st : ParseState) (c : Char) (cs : List Char) :
    Except SyntaxError (ParseState × List Char) :=
  match c with
  | '|' => .ok (st.nextAlternative, cs)
  | '(' => st.openGroup cs
  | ')' => st.closeGroup cs
  | '^' => st.anchor (.start st.flags.multiline) cs
  | '$' => st.anchor (.stop st.flags.multiline) cs
  | '.' => st.atom (.set (.dot st.flags.dotAll)) cs
  | '[' => st.bracket cs
  | '\\' => st.escape scope cs
  | '*' | '+' | '?' => .error .invalidAtom
  | '{' =>
    if st.flags.unicode then .error .invalidAtom
    else if (bracedCounts? cs).isSome then .error .invalidBracedQuantifier
    else st.literal c cs
  | ']' | '}' => if st.flags.unicode then .error .invalidAtom else st.literal c cs
  | c => st.literal c cs

/-- A step takes at least one character. -/
theorem length_step_le {scope : Scope} {st st' : ParseState} {c : Char} {cs rest : List Char}
    (h : step scope st c cs = .ok (st', rest)) : rest.length ≤ cs.length := by
  unfold step at h
  split at h
  · cases h; exact Nat.le_refl _
  · exact length_openGroup_le h
  · unfold closeGroup at h
    split at h
    · cases h
    · exact length_term_le h
  · exact length_term_le h
  · exact length_term_le h
  · exact length_term_le h
  · simp only [bracket] at h
    split at h
    · rename_i heq
      have h₁ := length_classItems_le heq
      have h₂ := length_term_le h
      have h₃ : ∀ cs : List Char, (match cs with
          | '^' :: cs => (true, cs)
          | cs => (false, cs) : Bool × List Char).2.length ≤ cs.length := by
        intro cs
        split <;> simp
      exact Nat.le_trans h₂ (Nat.le_trans h₁ (h₃ cs))
    · cases h
  · unfold escape at h
    split at h
    · rename_i heq
      exact Nat.le_trans (length_term_le h) (length_atomEscape_le heq)
    · cases h
  iterate 3 cases h
  · split at h
    · cases h
    split at h
    · cases h
    · exact length_term_le h
  iterate 2
    split at h
    · cases h
    · exact length_term_le h
  · exact length_term_le h

/-- Reads a pattern to its end. -/
def finish (scope : Scope) (st : ParseState) : List Char → Except SyntaxError Regex
  | [] =>
    if st.frames.isEmpty then .ok ⟨st.body, st.names.reverse⟩ else .error .unbalancedParenthesis
  | c :: cs =>
    match _h : step scope st c cs with
    | .ok (st, rest) => finish scope st rest
    | .error e => .error e
termination_by cs => cs.length
decreasing_by exact Nat.lt_succ_of_le (length_step_le _h)

end ParseState

/-- The regular expression that the characters of a pattern stand for under some flags. -/
def ofChars (flags : Flags) (pattern : List Char) : Except SyntaxError Regex :=
  match captureNames [] pattern with
  | .ok groups => ParseState.finish ⟨flags, groups⟩ { flags } pattern
  | .error e => .error e

/-- The regular expression that a pattern stands for under the flags of a flag string. -/
def ofPattern (pattern flags : String) : Except SyntaxError Regex :=
  ofChars (Flags.ofString flags) pattern.toList

end Regex

end PatternProse
