import Mathlib.Data.List.Forall2
import PatternProse.Match

/-!
# Positions of matches

What the capture groups hold matters to a run of a regular expression only if there are back
references. Without them two expressions that differ in the numbers of their groups match the same
parts of every text.

## Main definitions

* `Regex.Runs.Agree` — ways to run that end at the same positions.
* `Regex.Node.Similar` — nodes without back references that differ in the numbers of their groups.

The main statements are `Regex.Node.Similar.agree` and `Regex.map_place_matchesFrom`.
-/

namespace PatternProse.Regex

/-- The position in which a run ends, if it does. -/
def ending (r : Option MatchState) : Option Nat := r.map (·.position)

/-- Continuations that end at the same position wherever they start. -/
def Continuation.Agree (k k' : Continuation) : Prop :=
  ∀ st st' : MatchState, st.position = st'.position → ending (k st) = ending (k' st')

/-- A way to run from a state with a continuation, such as that of a node. -/
abbrev Runs := MatchState → Continuation → Option MatchState

/-- Ways to run that end at the same position whatever the groups hold. -/
def Runs.Agree (f g : Runs) : Prop :=
  ∀ (st st' : MatchState) (k k' : Continuation), st.position = st'.position → k.Agree k' →
    ending (f st k) = ending (g st' k')

/-- The second of two choices counts where the first one fails. -/
theorem ending_choice {a a' b b' : Option MatchState} :
    ending a = ending a' → ending b = ending b' →
    ending (match a with | some found => some found | none => b) =
      ending (match a' with | some found => some found | none => b') := by
  intro ha hb
  cases a <;> cases a'
  · exact hb
  · cases ha
  · cases ha
  · exact ha

theorem position_clear (st : MatchState) (groups : GroupRange) :
    (st.clear groups).position = st.position := by
  unfold MatchState.clear
  split <;> rfl

theorem remaining_eq {st st' : MatchState} (h : st.position = st'.position) (text : Array Char)
    (back : Bool) : st.remaining text back = st'.remaining text back := by
  rw [MatchState.remaining, MatchState.remaining, h]

/-! ### Loops -/

theorem agree_runRequired {f g : Runs} (h : f.Agree g) (groups groups' : GroupRange) (n : Nat) :
    Runs.Agree (runRequired f groups n) (runRequired g groups' n) := by
  induction n with
  | zero =>
    intro st st' k k' hst hk
    exact hk st st' hst
  | succ n ih =>
    intro st st' k k' hst hk
    have hclear : (st.clear groups).position = (st'.clear groups').position := by
      rw [position_clear, position_clear, hst]
    exact h _ _ _ _ hclear fun s s' hs => ih s s' k k' hs hk

theorem agree_runOptional {f g : Runs} (h : f.Agree g) (groups groups' : GroupRange) (greedy : Bool)
    (text : Array Char) (back : Bool) (max : Option Nat) :
    Runs.Agree (runOptional f groups greedy (·.remaining text back) max)
      (runOptional g groups' greedy (·.remaining text back) max) := by
  intro st st' k k' hst hk
  generalize hn : st.remaining text back = n
  -- every iteration that is kept leaves less of the text
  induction n using Nat.strongRecOn generalizing max st st' with
  | _ n ih =>
    have hagain : ∀ l : Nat, l = st.remaining text back →
        ending (f (st.clear groups) fun s => if s.remaining text back < l then
            runOptional f groups greedy (·.remaining text back) (max.map (· - 1)) s k else none) =
          ending (g (st'.clear groups') fun s => if s.remaining text back < l then
            runOptional g groups' greedy (·.remaining text back) (max.map (· - 1)) s k'
            else none) := by
      intro l hl
      refine h _ _ _ _ (by rw [position_clear, position_clear, hst]) fun s s' hs => ?_
      rw [← remaining_eq hs]
      split
      · next hlt => exact ih _ (by omega) (max.map (· - 1)) s s' hs rfl
      · rfl
    have hagain := hagain _ rfl
    rw [runOptional, runOptional, ← remaining_eq hst]
    split
    · exact hk st st' hst
    · split
      · exact ending_choice hagain (hk st st' hst)
      · exact ending_choice (hk st st' hst) hagain

/-! ### Nodes -/

namespace Node

/-- Nodes without back references that differ in the numbers of their capture groups only. -/
inductive Similar : Node → Node → Prop
  | empty : Similar .empty .empty
  | char (casing : Casing) (c : Nat) : Similar (.char casing c) (.char casing c)
  | set (k : CharClass) : Similar (.set k) (.set k)
  | assertion (a : Assertion) : Similar (.assertion a) (.assertion a)
  | seq {a b a' b' : Node} : Similar a a' → Similar b b' → Similar (.seq a b) (.seq a' b')
  | alt {a b a' b' : Node} : Similar a a' → Similar b b' → Similar (.alt a b) (.alt a' b')
  | group (i j : Nat) {a a' : Node} : Similar a a' → Similar (.group i a) (.group j a')
  | look (k : Lookaround) {a a' : Node} : Similar a a' → Similar (.look k a) (.look k a')
  | quantified (r : Repetition) (groups groups' : GroupRange) {a a' : Node} :
    Similar a a' → Similar (.quantified r groups a) (.quantified r groups' a')

theorem Similar.isStationary_eq {n m : Node} (h : Similar n m) :
    n.isStationary = m.isStationary := by
  induction h with
  | seq _ _ iha ihb | alt _ _ iha ihb => simp only [isStationary, iha, ihb]
  | group _ _ _ ih | quantified _ _ _ _ ih => simp only [isStationary, ih]
  | _ => rfl

theorem agree_read (text : Array Char) (back : Bool) (p : Nat → Bool) :
    Runs.Agree (fun st k => (st.read? text back p).bind k)
      fun st k => (st.read? text back p).bind k := by
  intro st st' k k' hst hk
  obtain ⟨i, held⟩ := st
  obtain ⟨i', held'⟩ := st'
  obtain rfl : i = i' := hst
  simp only [MatchState.read?]
  split
  · cases i with
    | zero => rfl
    | succ i =>
      dsimp only
      split
      · exact hk _ _ rfl
      · rfl
  · split
    · exact hk _ _ rfl
    · rfl

/-- Similar nodes end at the same position whatever the groups hold. -/
theorem Similar.agree {n m : Node} (h : Similar n m) (text : Array Char) (back : Bool) :
    Runs.Agree (n.run text back) (m.run text back) := by
  induction h generalizing back with
  | empty =>
    intro st st' k k' hst hk
    exact hk st st' hst
  | char casing c => exact agree_read text back (casing.same c)
  | set k => exact agree_read text back k.contains
  | assertion a =>
    intro st st' k k' hst hk
    simp only [run, ← hst]
    split
    · exact hk st st' hst
    · rfl
  | seq _ _ iha ihb =>
    intro st st' k k' hst hk
    simp only [run]
    split
    · exact ihb back st st' _ _ hst fun s s' hs => iha back s s' k k' hs hk
    · exact iha back st st' _ _ hst fun s s' hs => ihb back s s' k k' hs hk
  | alt _ _ iha ihb =>
    intro st st' k k' hst hk
    simp only [run]
    exact ending_choice (iha back st st' k k' hst hk) (ihb back st st' k k' hst hk)
  | group i j _ ih =>
    intro st st' k k' hst hk
    exact ih back st st' _ _ hst fun s s' hs => hk _ _ hs
  | @look kind a a' _ ih =>
    intro st st' k k' hst hk
    have hbody := ih kind.isBehind st st' some some hst fun s s' hs => congrArg some hs
    simp only [run]
    cases h : a.run text kind.isBehind st some <;> cases h' : a'.run text kind.isBehind st' some
    · dsimp only
      split
      · exact hk st st' hst
      · rfl
    · simp [h, h', ending] at hbody
    · simp [h, h', ending] at hbody
    · dsimp only
      split
      · rfl
      · exact hk _ _ hst
  | quantified r groups groups' hbody ih =>
    intro st st' k k' hst hk
    simp only [run, hbody.isStationary_eq]
    exact agree_runRequired (ih back) groups groups' _ st st' _ _ hst fun s s' hs =>
      agree_runOptional (ih back) groups groups' r.greedy text back _ s s' k k' hs hk

end Node

/-! ### Searches -/

/-- Where a match starts and where it stops. -/
def Found.place (f : Found) : Nat × Nat := (f.start, f.final.position)

variable {re re' : Regex} {text : Array Char}

theorem map_place_nextMatch?
    (h : ∀ i, ending (re.matchAt? text i) = ending (re'.matchAt? text i)) (start : Nat) :
    (re.nextMatch? text start).map Found.place = (re'.nextMatch? text start).map Found.place := by
  have hstart := h start
  fun_induction nextMatch? re text start with
  | case1 start hs final hfinal =>
    rw [nextMatch?, if_pos hs]
    rw [hfinal] at hstart
    cases hfinal' : re'.matchAt? text start with
    | none => rw [hfinal'] at hstart; cases hstart
    | some final' =>
      rw [hfinal'] at hstart
      exact congrArg (Option.map fun position => (start, position)) hstart
  | case2 start hs hnone ih =>
    rw [nextMatch?.eq_1 re' text start, if_pos hs]
    rw [hnone] at hstart
    cases hfinal' : re'.matchAt? text start with
    | none => exact ih (h (start + 1))
    | some final' => rw [hfinal'] at hstart; cases hstart
  | case3 start hs => rw [nextMatch?, if_neg hs]

theorem exists_nextMatch? (h : ∀ i, ending (re.matchAt? text i) = ending (re'.matchAt? text i))
    {start : Nat} {f : Found} (hf : re.nextMatch? text start = some f) :
    ∃ f', re'.nextMatch? text start = some f' ∧ f'.start = f.start ∧
      f'.final.position = f.final.position := by
  have hnext := map_place_nextMatch? h start
  rw [hf] at hnext
  obtain ⟨f', hf', hplace⟩ := Option.map_eq_some_iff.mp hnext.symm
  exact ⟨f', hf', congrArg Prod.fst hplace, congrArg Prod.snd hplace⟩

theorem matchesFrom_none {start : Nat} (h : re.nextMatch? text start = none)
    (global sticky : Bool) (expected : Nat) :
    re.matchesFrom text global sticky expected start = [] := by
  rw [matchesFrom]
  split <;> simp_all

theorem matchesFrom_some {start : Nat} {f : Found} (h : re.nextMatch? text start = some f)
    (global sticky : Bool) (expected : Nat) :
    re.matchesFrom text global sticky expected start =
      if sticky && f.start != expected then []
      else if global then f :: re.matchesFrom text global sticky f.final.position f.resume
      else [f] := by
  rw [matchesFrom]
  split <;> simp_all

/-- A search for one match finds the first of all matches. -/
theorem matchesFrom_eq_take (re : Regex) (text : Array Char) (sticky : Bool)
    (expected start : Nat) :
    re.matchesFrom text false sticky expected start =
      (re.matchesFrom text true sticky expected start).take 1 := by
  cases h : re.nextMatch? text start with
  | none =>
    rw [matchesFrom_none h, matchesFrom_none h]
    rfl
  | some f =>
    rw [matchesFrom_some h, matchesFrom_some h]
    split <;> simp

/-- Regular expressions that match up to the same position wherever they start find matches at the
same places. -/
theorem map_place_matchesFrom
    (h : ∀ i, ending (re.matchAt? text i) = ending (re'.matchAt? text i))
    (global sticky : Bool) (expected start : Nat) :
    (re.matchesFrom text global sticky expected start).map Found.place =
      (re'.matchesFrom text global sticky expected start).map Found.place := by
  fun_induction matchesFrom re text global sticky expected start with
  | case1 expected start hf =>
    have hnext := map_place_nextMatch? h start
    rw [hf] at hnext
    rw [matchesFrom_none (Option.map_eq_none_iff.mp hnext.symm)]
  | case2 expected start f hf hsticky =>
    obtain ⟨f', hf', hstart, -⟩ := exists_nextMatch? h hf
    rw [matchesFrom_some hf', hstart, if_pos hsticky]
  | case3 expected start f hf hsticky hglobal ih =>
    obtain ⟨f', hf', hstart, hstop⟩ := exists_nextMatch? h hf
    have hresume : f'.resume = f.resume := by rw [Found.resume, Found.resume, hstart, hstop]
    have hplace : f'.place = f.place := Prod.ext hstart hstop
    rw [matchesFrom_some hf', hstart, if_neg hsticky, if_pos hglobal, List.map_cons, List.map_cons,
      ih, hstop, hresume, hplace]
  | case4 expected start f hf hsticky hglobal =>
    obtain ⟨f', hf', hstart, hstop⟩ := exists_nextMatch? h hf
    have hplace : f'.place = f.place := Prod.ext hstart hstop
    rw [matchesFrom_some hf', hstart, if_neg hsticky, if_neg hglobal, List.map_singleton,
      List.map_singleton, hplace]

end PatternProse.Regex
