import PatternProse.Regex.Parser

/-!
# What texts are read as

A text that stands in a larger pattern adds terms to the alternative that is being read there. A
bar in it that stands in no group ends this alternative, and the text goes on with the next one.
So what the text is read as is a list of branches, of which the first and the last one may go on
before and after the text.

## Main definitions

* `Regex.Reading` — the branches and the capture groups that a text is read as.
* `Regex.Node.ofBranches` — the node of a group that holds some branches.
* `Regex.ParseState.read` — the state of reading behind a text.

The main statements are `Regex.ParseState.read_append`, about texts one after the other, and
`Regex.ParseState.body_read`, about the text of a group.
-/

namespace PatternProse.Regex

/-- One of several nodes, or nothing for want of one. -/
def Node.ofAlternatives : List Node → Node
  | [] => .empty
  | n :: ns => .choice n ns

/-- One of several sequences of nodes. -/
def Node.ofBranches (branches : List (List Node)) : Node :=
  ofAlternatives (branches.map Node.sequence)

/-- Branches followed by others: the last branch goes on with the first one of the others. -/
def joinBranches : List (List Node) → List (List Node) → List (List Node)
  | [], us => us
  | [ts], [] => [ts]
  | [ts], u :: us => (ts ++ u) :: us
  | t :: t' :: ts, us => t :: joinBranches (t' :: ts) us

/-- What a text is read as, which depends on the flags and on the number of capture groups that
open before it. -/
structure Reading where
  branches : Flags → Nat → List (List Node)
  /-- The number of capture groups of the text. They have no names. -/
  groups : Nat

namespace Reading

/-- The reading of a text without branches of its own. -/
def nil : Reading := ⟨fun _ _ => [[]], 0⟩

/-- The reading of a text that is one term. -/
def term (n : Flags → Node) : Reading := ⟨fun flags _ => [[n flags]], 0⟩

/-- The reading of a bar. -/
def bar : Reading := ⟨fun _ _ => [[], []], 0⟩

/-- The reading of two texts one after the other. -/
def append (r s : Reading) : Reading where
  branches flags first :=
    joinBranches (r.branches flags first) (s.branches flags (first + r.groups))
  groups := r.groups + s.groups

@[simp] theorem branches_append (r s : Reading) (flags : Flags) (first : Nat) :
    (r.append s).branches flags first =
      joinBranches (r.branches flags first) (s.branches flags (first + r.groups)) := rfl

/-- The reading of texts one after the other. -/
def concat : List Reading → Reading
  | [] => nil
  | r :: rs => r.append (concat rs)

/-- The reading of texts with bars between them. -/
def alternatives : List Reading → Reading
  | [] => nil
  | [r] => r
  | r :: s :: rs => r.append (bar.append (alternatives (s :: rs)))

/-- The node of a group that holds a text. -/
def node (r : Reading) (flags : Flags) (first : Nat) : Node := .ofBranches (r.branches flags first)

/-- The reading of a text in a group, which is counted as `groups` capture groups itself. -/
def enclosed (kind : Nat → GroupKind) (groups : Nat) (r : Reading) : Reading where
  branches flags first := [[(kind first).node (r.node flags (first + groups))]]
  groups := groups + r.groups

/-- The reading of a text that is repeated as a whole. -/
def quantified (repetition : Repetition) (r : Reading) : Reading where
  branches flags first :=
    [[.quantified repetition ⟨first, first + r.groups⟩ (r.node flags first)]]
  groups := r.groups

end Reading

namespace ParseState

/-- Adds terms to the alternative that is being read. -/
def addTerms (st : ParseState) (ts : List Node) : ParseState :=
  { st with terms := ts.reverse ++ st.terms }

/-- Adds branches, the first of which goes on with the alternative that is being read. -/
def add (st : ParseState) : List (List Node) → ParseState
  | [] => st
  | [ts] => st.addTerms ts
  | t :: t' :: ts => (st.addTerms t).nextAlternative.add (t' :: ts)

/-- The state behind a text with a given reading. -/
def read (st : ParseState) (r : Reading) : ParseState :=
  { st.add (r.branches st.flags st.names.length) with
    names := List.replicate r.groups none ++ st.names }

theorem addTerms_append (st : ParseState) (ts us : List Node) :
    st.addTerms (ts ++ us) = (st.addTerms ts).addTerms us := by
  simp [addTerms]

theorem add_joinBranches (st : ParseState) (ts us : List (List Node)) :
    st.add (joinBranches ts us) = (st.add ts).add us := by
  fun_induction joinBranches ts us generalizing st with
  | case1 => rfl
  | case2 => rfl
  | case3 t u us =>
    cases us with
    | nil => exact addTerms_append st t u
    | cons u' us =>
      simp only [add, addTerms_append]
  | case4 t t' ts us ih =>
    have htail : ∃ v vs, joinBranches (t' :: ts) us = v :: vs := by
      cases ts <;> cases us <;> exact ⟨_, _, rfl⟩
    obtain ⟨v, vs, hv⟩ := htail
    rw [hv] at ih
    rw [hv, add, ih, add]

@[simp] theorem flags_add (st : ParseState) (ts : List (List Node)) :
    (st.add ts).flags = st.flags := by
  fun_induction add st ts with
  | case1 => rfl
  | case2 => rfl
  | case3 _ _ _ _ ih => rw [ih]; rfl

@[simp] theorem frames_add (st : ParseState) (ts : List (List Node)) :
    (st.add ts).frames = st.frames := by
  fun_induction add st ts with
  | case1 => rfl
  | case2 => rfl
  | case3 _ _ _ _ ih => rw [ih]; rfl

/-- The names of capture groups do not matter for what branches add. -/
theorem add_with_names (st : ParseState) (names : List (Option String)) (ts : List (List Node)) :
    { st with names }.add ts = { st.add ts with names } := by
  fun_induction add st ts with
  | case1 => rfl
  | case2 => rfl
  | case3 st t t' ts ih => exact ih

@[simp] theorem flags_read (st : ParseState) (r : Reading) : (st.read r).flags = st.flags :=
  flags_add st _

@[simp] theorem frames_read (st : ParseState) (r : Reading) : (st.read r).frames = st.frames :=
  frames_add st _

@[simp] theorem length_names_read (st : ParseState) (r : Reading) :
    (st.read r).names.length = st.names.length + r.groups := by
  simp [read, Nat.add_comm]

/-- The state behind two texts is the one that the second text leads to from behind the first. -/
theorem read_append (st : ParseState) (r s : Reading) :
    st.read (r.append s) = (st.read r).read s := by
  have hs : (st.read r).read s =
      { (st.read r).add (s.branches st.flags (st.names.length + r.groups)) with
        names := List.replicate s.groups none ++ (List.replicate r.groups none ++ st.names) } := by
    rw [← length_names_read, ← flags_read st r]
    rfl
  rw [hs, ← List.append_assoc, List.replicate_append_replicate, Nat.add_comm s.groups]
  simp only [read, Reading.append, add_joinBranches, add_with_names]

/-- The node of a level, where `done` are its finished alternatives. -/
theorem body_add (st : ParseState) (ts : List (List Node)) :
    (st.add ts).body = .ofAlternatives
      (st.alternatives.reverse ++ (joinBranches [st.terms.reverse] ts).map Node.sequence) := by
  have hbody : ∀ st : ParseState, st.body =
      .ofAlternatives (st.alternatives.reverse ++ [Node.sequence st.terms.reverse]) := by
    intro st
    rw [body, List.reverse_cons]
    rfl
  fun_induction add st ts with
  | case1 => exact hbody _
  | case2 st ts => simp [hbody, addTerms, joinBranches]
  | case3 st t t' ts ih =>
    rw [ih]
    simp [addTerms, nextAlternative, joinBranches]

/-- The node of a level that a text makes up by itself. -/
theorem body_read {st : ParseState} (halternatives : st.alternatives = []) (hterms : st.terms = [])
    (r : Reading) : (st.read r).body = r.node st.flags st.names.length := by
  have hbody : (st.read r).body = (st.add (r.branches st.flags st.names.length)).body := rfl
  rw [hbody, body_add, halternatives, hterms, Reading.node, Node.ofBranches]
  match r.branches st.flags st.names.length with
  | [] => rfl
  | t :: ts => rfl

/-- Adds capture groups without names. -/
def addGroups (st : ParseState) (n : Nat) : ParseState :=
  { st with names := List.replicate n none ++ st.names }

/-- A group that is closed behind the text in it is a term of the level around it. -/
theorem closeGroup_read_enter (st : ParseState) (kind : GroupKind) (groups : Nat) (r : Reading)
    (rest : List Char) :
    ((st.enter kind st.flags (List.replicate groups none ++ st.names)).read r).closeGroup rest =
      (st.addGroups (groups + r.groups)).term (kind.isQuantifiable st.flags.unicode)
        ⟨st.names.length, st.names.length + (groups + r.groups)⟩
        (kind.node (r.node st.flags (st.names.length + groups))) rest := by
  have hlength (n : Nat) :
      (List.replicate n none ++ st.names).length = st.names.length + n := by
    rw [List.length_append, List.length_replicate, Nat.add_comm]
  have hbody :=
    @body_read (st.enter kind st.flags (List.replicate groups none ++ st.names)) rfl rfl r
  have hframes := frames_read (st.enter kind st.flags (List.replicate groups none ++ st.names)) r
  have hnames : ((st.enter kind st.flags (List.replicate groups none ++ st.names)).read r).names =
      List.replicate (groups + r.groups) none ++ st.names := by
    rw [Nat.add_comm, ← List.replicate_append_replicate, List.append_assoc]
    rfl
  rw [closeGroup, hframes]
  simp only [enter] at hbody hnames ⊢
  simp only [hbody, hnames, hlength]
  rfl

end ParseState

end PatternProse.Regex
