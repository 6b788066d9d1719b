import PatternProse.Match

/-!
# What runs preserve

A run moves over characters, copies what a group holds, and changes what groups hold. What all of
these moves preserve is preserved by the run of any node, whatever choices are made on the way.

## Main definitions

* `Regex.Moves` — what a run can do to a state.
* `Regex.IsInvariant` — properties of states that every move preserves.
* `Regex.Preserves` — continuations that preserve a property.

The main statements are `Regex.exists_moves_of_run`, `Regex.IsInvariant.preserves_run` and
`length_groups_of_findMatches`: every match has as many groups as the regular expression.
-/

namespace PatternProse

namespace Regex

/-- What a run in some direction can do to a state on the way to its continuation. -/
inductive Moves (text : Array Char) : Bool → MatchState → MatchState → Prop
  | refl (back : Bool) (st : MatchState) : Moves text back st st
  | trans {back : Bool} {st mid st' : MatchState} :
    Moves text back st mid → Moves text back mid st' → Moves text back st st'
  | read {back : Bool} {p : Nat → Bool} {st st' : MatchState} :
    st.read? text back p = some st' → Moves text back st st'
  | copy {back : Bool} {casing : Casing} {index : Nat} {held : Nat × Nat} {st st' : MatchState} :
    st.held? index = some held → st.readCopy? text back casing held = some st' →
      Moves text back st st'
  | capture {back : Bool} (index : Nat) {st st' : MatchState} :
    Moves text back st st' → Moves text back st (st'.capture index st.position st'.position)
  | clear (back : Bool) (groups : GroupRange) (st : MatchState) :
    Moves text back st (st.clear groups)
  /-- An assertion about the text may look in the other direction. -/
  | look {back dir : Bool} {st st' : MatchState} :
    Moves text dir st st' → Moves text back st { st' with position := st.position }

/-! ### Runs are made of moves -/

section Runs

variable {text : Array Char} {back : Bool} {body : MatchState → Continuation → Option MatchState}
  {k : Continuation} {st final : MatchState}

theorem exists_moves_of_runRequired
    (hbody : ∀ st k final, body st k = some final →
      ∃ mid, Moves text back st mid ∧ k mid = some final)
    (groups : GroupRange) (n : Nat) (h : runRequired body groups n st k = some final) :
    ∃ mid, Moves text back st mid ∧ k mid = some final := by
  induction n generalizing st with
  | zero => exact ⟨st, .refl back st, h⟩
  | succ n ih =>
    obtain ⟨mid, hmid, h⟩ := hbody _ _ _ h
    obtain ⟨mid', hmid', h⟩ := ih h
    exact ⟨mid', ((Moves.clear back groups st).trans hmid).trans hmid', h⟩

theorem exists_moves_of_runOptional
    (hbody : ∀ st k final, body st k = some final →
      ∃ mid, Moves text back st mid ∧ k mid = some final)
    (groups : GroupRange) (greedy : Bool) (remaining : MatchState → Nat) (max : Option Nat)
    (h : runOptional body groups greedy remaining max st k = some final) :
    ∃ mid, Moves text back st mid ∧ k mid = some final := by
  generalize hn : remaining st = n at h
  -- every iteration that is kept leaves less of the text
  induction n using Nat.strongRecOn generalizing max st with
  | _ n ih =>
    have hagain (h : body (st.clear groups) (fun st' =>
        if remaining st' < n then
          runOptional body groups greedy remaining (max.map (· - 1)) st' k else none) =
        some final) : ∃ mid, Moves text back st mid ∧ k mid = some final := by
      obtain ⟨mid, hmid, h⟩ := hbody _ _ _ h
      split at h
      · next hlt =>
        obtain ⟨mid', hmid', h⟩ := ih _ hlt (max.map (· - 1)) h rfl
        exact ⟨mid', ((Moves.clear back groups st).trans hmid).trans hmid', h⟩
      · cases h
    have hstop (h : k st = some final) : ∃ mid, Moves text back st mid ∧ k mid = some final :=
      ⟨st, .refl back st, h⟩
    rw [runOptional, hn] at h
    dsimp only at h
    split at h
    · exact hstop h
    · split at h <;> split at h
      · next hfound => exact hagain (hfound.trans h)
      · exact hstop h
      · next hfound => exact hstop (hfound.trans h)
      · exact hagain h

/-- A run that ends somewhere has moved to a state from which its continuation ends there. -/
theorem exists_moves_of_run (n : Node) (h : n.run text back st k = some final) :
    ∃ mid, Moves text back st mid ∧ k mid = some final := by
  induction n generalizing back st k final with
  | empty => exact ⟨st, .refl back st, h⟩
  | char casing c =>
    obtain ⟨mid, hread, h⟩ := Option.bind_eq_some_iff.1 h
    exact ⟨mid, .read hread, h⟩
  | set chars =>
    obtain ⟨mid, hread, h⟩ := Option.bind_eq_some_iff.1 h
    exact ⟨mid, .read hread, h⟩
  | assertion a =>
    simp only [Node.run] at h
    split at h
    · exact ⟨st, .refl back st, h⟩
    · cases h
  | seq a b iha ihb =>
    simp only [Node.run] at h
    split at h
    · obtain ⟨mid, hmid, h⟩ := ihb h
      obtain ⟨mid', hmid', h⟩ := iha h
      exact ⟨mid', hmid.trans hmid', h⟩
    · obtain ⟨mid, hmid, h⟩ := iha h
      obtain ⟨mid', hmid', h⟩ := ihb h
      exact ⟨mid', hmid.trans hmid', h⟩
  | alt a b iha ihb =>
    simp only [Node.run] at h
    split at h
    · next hfound => exact iha (hfound.trans h)
    · exact ihb h
  | group index body ih =>
    obtain ⟨mid, hmid, h⟩ := ih h
    exact ⟨_, .capture index hmid, h⟩
  | reference casing index =>
    simp only [Node.run] at h
    split at h
    · next hheld =>
      obtain ⟨mid, hcopy, h⟩ := Option.bind_eq_some_iff.1 h
      exact ⟨mid, .copy hheld hcopy, h⟩
    · exact ⟨st, .refl back st, h⟩
  | look kind body ih =>
    simp only [Node.run] at h
    split at h
    · next found hfound =>
      split at h
      · cases h
      · obtain ⟨mid, hmid, hfinal⟩ := ih hfound
        cases hfinal
        exact ⟨_, .look hmid, h⟩
    · split at h
      · exact ⟨st, .refl back st, h⟩
      · cases h
  | quantified r groups body ih =>
    have hbody := fun st k final (h : body.run text back st k = some final) => ih h
    obtain ⟨mid, hmid, h⟩ := exists_moves_of_runRequired hbody groups _ h
    obtain ⟨mid', hmid', h⟩ := exists_moves_of_runOptional hbody groups r.greedy _ _ h
    exact ⟨mid', hmid.trans hmid', h⟩

theorem moves_of_matchAt? {re : Regex} {start : Nat} (h : re.matchAt? text start = some final) :
    Moves text false ⟨start, Array.replicate re.groups.length none⟩ final := by
  obtain ⟨mid, hmid, hfinal⟩ := exists_moves_of_run re.node h
  cases hfinal
  exact hmid

end Runs

/-! ### Invariants -/

/-- Every move of a run preserves a property of states. -/
structure IsInvariant (text : Array Char) (I : MatchState → Prop) : Prop where
  read {st st' : MatchState} {back : Bool} {p : Nat → Bool} :
    I st → st.read? text back p = some st' → I st'
  copy {st st' : MatchState} {back : Bool} {casing : Casing} {index : Nat} {held : Nat × Nat} :
    I st → st.held? index = some held → st.readCopy? text back casing held = some st' → I st'
  capture (index : Nat) {st st' : MatchState} :
    I st → I st' → I (st'.capture index st.position st'.position)
  clear (groups : GroupRange) {st : MatchState} : I st → I (st.clear groups)
  /-- Behind an assertion about the text the position is the one before it. -/
  restore {st st' : MatchState} : I st → I st' → I { st' with position := st.position }

/-- A continuation that starts from a state with a property ends in one. -/
def Preserves (I : MatchState → Prop) (k : Continuation) : Prop :=
  ∀ st st', I st → k st = some st' → I st'

theorem preserves_some (I : MatchState → Prop) : Preserves I some := by
  rintro st st' hst ⟨⟩
  exact hst

namespace IsInvariant

variable {text : Array Char} {I : MatchState → Prop} (hI : IsInvariant text I)
include hI

theorem of_moves {back : Bool} {st st' : MatchState} (h : Moves text back st st') (hst : I st) :
    I st' := by
  induction h with
  | refl => exact hst
  | trans _ _ ih ih' => exact ih' (ih hst)
  | read hread => exact hI.read hst hread
  | copy hheld hcopy => exact hI.copy hst hheld hcopy
  | capture index _ ih => exact hI.capture index hst (ih hst)
  | clear _ groups => exact hI.clear groups hst
  | look _ ih => exact hI.restore hst (ih hst)

/-- A node preserves what its moves and its continuation preserve. -/
theorem preserves_run (n : Node) (back : Bool) {k : Continuation} (hk : Preserves I k) :
    Preserves I fun st => n.run text back st k := by
  intro st st' hst h
  obtain ⟨mid, hmid, h⟩ := exists_moves_of_run n h
  exact hk mid st' (hI.of_moves hmid hst) h

end IsInvariant

/-! ### Groups of a match -/

/-- No move changes how many groups there are. -/
theorem isInvariant_size (text : Array Char) (size : Nat) :
    IsInvariant text fun st => st.captures.size = size where
  read := by
    intro st st' back p hst h
    unfold MatchState.read? at h
    grind
  copy := by
    intro st st' back casing index held hst _ h
    unfold MatchState.readCopy? at h
    grind
  capture index st st' _ hst' := by
    simpa [MatchState.capture] using hst'
  clear groups st hst := by
    unfold MatchState.clear
    split
    · simpa using hst
    · exact hst
  restore _ hst' := hst'

/-- A match has as many groups as the regular expression. -/
theorem size_captures_of_matchAt? {re : Regex} {text : Array Char} {start : Nat}
    {final : MatchState} (h : re.matchAt? text start = some final) :
    final.captures.size = re.groups.length :=
  (isInvariant_size text re.groups.length).preserves_run re.node false (preserves_some _) _ final
    (Array.size_replicate) h

/-! ### Searches -/

theorem matchAt?_of_nextMatch? {re : Regex} {text : Array Char} {start : Nat} {f : Found}
    (h : re.nextMatch? text start = some f) : re.matchAt? text f.start = some f.final := by
  fun_induction nextMatch? re text start with
  | case1 start _ final hfinal =>
    cases h
    exact hfinal
  | case2 start _ _ ih => exact ih h
  | case3 => cases h

/-- All matches of a search are matches where they start. -/
theorem matchAt?_of_mem_matchesFrom {re : Regex} {text : Array Char} {global sticky : Bool}
    {expected start : Nat} {f : Found}
    (h : f ∈ re.matchesFrom text global sticky expected start) :
    re.matchAt? text f.start = some f.final ∧ start ≤ f.start ∧ f.start ≤ text.size := by
  fun_induction matchesFrom re text global sticky expected start with
  | case1 => cases h
  | case2 => cases h
  | case3 expected start g hg _ _ ih =>
    have hstart := start_nextMatch? hg
    rcases List.mem_cons.1 h with rfl | h
    · exact ⟨matchAt?_of_nextMatch? hg, hstart⟩
    · obtain ⟨hmatch, hresume, hsize⟩ := ih h
      have hlt : g.start + 1 ≤ g.resume := Nat.le_max_right _ _
      exact ⟨hmatch, by omega, hsize⟩
  | case4 expected start g hg =>
    rw [List.mem_singleton] at h
    rw [h]
    exact ⟨matchAt?_of_nextMatch? hg, start_nextMatch? hg⟩

end Regex

/-- All matches of a pattern have as many groups as the regular expression that it stands for. -/
theorem length_groups_of_findMatches {pattern flags : String} {re : Regex}
    (h : compile pattern flags = .ok re) (text : String) :
    ∃ ms, findMatches pattern flags text = .ok ms ∧
      ∀ m ∈ ms, m.groups.length = re.groups.length := by
  refine ⟨_, findMatches_of_compile h text, fun m hm => ?_⟩
  obtain ⟨f, hf, rfl⟩ := List.mem_map.1 hm
  rw [Regex.Found.toMatch, List.length_map, Array.length_toList]
  exact Regex.size_captures_of_matchAt? (Regex.matchAt?_of_mem_matchesFrom hf).1

end PatternProse
