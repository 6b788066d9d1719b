import PatternProse.Proofs.Regex.Extent

/-!
# Matches that the flags select

The letters `g` and `y` of a flag string change nothing about a search but which of its matches
count. All of them count with `g` alone. With `y` those count that adjoin one another from the
start of the text on, and without `g` the first one of those that would count with it.

## Main definitions

* `Match.Adjoin` — matches each of which starts where the one before it stops.
* `Match.IsStickyPart` — the matches of a search that count with the flag `y`.

The main statement is `findMatches_eq_selection`.
-/

namespace PatternProse

namespace Match

/-- Matches each of which starts where the one before it stops, the first one at a byte offset. -/
inductive Adjoin : (start : Nat) → List Match → Prop
  | nil (start : Nat) : Adjoin start []
  | cons {m : Match} {ms : List Match} : Adjoin m.span.stop ms → Adjoin m.span.start (m :: ms)

/-- Of some matches the part at the front that adjoin one another from the start of the text on, as
many as there are. -/
structure IsStickyPart (ms part : List Match) : Prop where
  isPrefix : part <+: ms
  adjoin : Adjoin 0 part
  longest : ∀ part', part' <+: ms → Adjoin 0 part' → part' <+: part

/-- The matches at the front that adjoin one another from a byte offset on. -/
def adjoining (start : Nat) : List Match → List Match
  | [] => []
  | m :: ms => if m.span.start = start then m :: adjoining m.span.stop ms else []

theorem adjoining_prefix (start : Nat) (ms : List Match) : adjoining start ms <+: ms := by
  fun_induction adjoining start ms with
  | case1 => exact List.prefix_rfl
  | case2 m ms ih => exact List.cons_prefix_cons.2 ⟨rfl, ih⟩
  | case3 => exact List.nil_prefix

theorem adjoin_adjoining (start : Nat) (ms : List Match) : Adjoin start (adjoining start ms) := by
  fun_induction adjoining start ms with
  | case1 start => exact .nil start
  | case2 m ms ih => exact .cons ih
  | case3 start => exact .nil start

/-- Matches at the front that adjoin one another are among these. -/
theorem Adjoin.prefix_adjoining {start : Nat} {part ms : List Match} (h : Adjoin start part)
    (hpart : part <+: ms) : part <+: adjoining start ms := by
  induction h generalizing ms with
  | nil => exact List.nil_prefix
  | @cons m part _ ih =>
    obtain ⟨rest, rfl⟩ := hpart
    have hrest : part <+: part ++ rest := List.prefix_append part rest
    rw [List.cons_append, adjoining, if_pos rfl]
    exact List.cons_prefix_cons.2 ⟨rfl, ih hrest⟩

theorem isStickyPart_adjoining (ms : List Match) : IsStickyPart ms (adjoining 0 ms) where
  isPrefix := adjoining_prefix 0 ms
  adjoin := adjoin_adjoining 0 ms
  longest _ hprefix hadjoin := hadjoin.prefix_adjoining hprefix

end Match

namespace Regex

/-- A sticky search stops at the first match that does not adjoin the one before it. What the
other search expects does not matter to it. -/
theorem map_toMatch_matchesFrom_sticky (re : Regex) (text : String) (expected' : Nat)
    {expected : Nat} (start : Nat) (hexpected : expected ≤ text.length) :
    (re.matchesFrom (Subject.ofString text).chars true true expected start).map
        (·.toMatch (Subject.ofString text)) =
      Match.adjoining ((Subject.ofString text).offset expected)
        ((re.matchesFrom (Subject.ofString text).chars true false expected' start).map
          (·.toMatch (Subject.ofString text))) := by
  fun_induction matchesFrom re (Subject.ofString text).chars true true expected start
    generalizing expected' with
  | case1 expected start hf =>
    rw [matchesFrom_none hf]
    rfl
  | case2 expected start f hf hstop =>
    have hne : f.start ≠ expected := by simpa using hstop
    rw [matchesFrom_some hf]
    simp [Match.adjoining, start_toMatch_eq_iff hf hexpected, hne]
  | case3 expected start f hf hgo _ ih =>
    have heq : f.start = expected := by simpa using hgo
    have hposition : f.final.position ≤ text.length := by
      obtain ⟨-, hwithin⟩ := extent_of_matchAt? (matchAt?_of_nextMatch? hf) (start_nextMatch? hf).2
      rw [← Subject.size_chars_ofString]
      exact hwithin.position_le
    have htail := ih f.final.position hposition
    have hstart := (start_toMatch_eq_iff hf hexpected).2 heq
    rw [matchesFrom_some hf]
    simp only [Bool.false_and, Bool.false_eq_true, if_false, if_true, List.map_cons,
      Match.adjoining, hstart, htail]
    rfl
  | case4 expected start f hf _ hone => exact absurd rfl hone

end Regex

/-- The letters that a flag string has besides those of a pattern do not matter for the regular
expression. -/
theorem compile_of_flags_eq {pattern flags flags' : String} {re : Regex}
    (hflags : Regex.Flags.ofString flags' = Regex.Flags.ofString flags)
    (h : compile pattern flags = .ok re) : compile pattern flags' = .ok re := by
  simp only [compile, Regex.ofPattern, hflags] at h ⊢
  split at h
  · exact h
  · cases h

/-- Which matches a flag string selects from all that the pattern has with the same flags for the
pattern, with `g` and without `y`. -/
theorem findMatches_eq_selection {pattern flags allFlags : String}
    (hvalid : isValid pattern flags = true)
    (hflags : Regex.Flags.ofString allFlags = Regex.Flags.ofString flags)
    (hglobal : Flag.global.isIn allFlags = true) (hsticky : Flag.sticky.isIn allFlags = false)
    (text : String) :
    ∃ all part, findMatches pattern allFlags text = .ok all ∧ Match.IsStickyPart all part ∧
      findMatches pattern flags text = .ok
        (match Flag.global.isIn flags, Flag.sticky.isIn flags with
        | true, false => all
        | false, false => all.take 1
        | true, true => part
        | false, true => part.take 1) := by
  obtain ⟨re, hre⟩ := isValid_iff.1 hvalid
  have hall := findMatches_of_compile (compile_of_flags_eq hflags hre) text
  rw [hglobal, hsticky] at hall
  refine ⟨_, _, hall, Match.isStickyPart_adjoining _, ?_⟩
  have hpart := Regex.map_toMatch_matchesFrom_sticky re text 0 0 (Nat.zero_le text.length)
  rw [Subject.offset_zero] at hpart
  rw [findMatches_of_compile hre, ← hpart]
  cases Flag.global.isIn flags <;> cases Flag.sticky.isIn flags
  · rw [Regex.matchesFrom_eq_take, List.map_take]
  · rw [Regex.matchesFrom_eq_take, List.map_take]
  · rfl
  · rfl

theorem findMatches_eq_selection_empty :
    isValid "b*" "yi" = true ∧ Regex.Flags.ofString "ig" = Regex.Flags.ofString "yi" ∧
      Flag.global.isIn "ig" = true ∧ Flag.sticky.isIn "ig" = false ∧
      ∃ all part, findMatches "b*" "ig" "Bba🙂b" = .ok all ∧ Match.IsStickyPart all part ∧
        findMatches "b*" "yi" "Bba🙂b" = .ok
          (match Flag.global.isIn "yi", Flag.sticky.isIn "yi" with
          | true, false => all
          | false, false => all.take 1
          | true, true => part
          | false, true => part.take 1) := by
  have hvalid : isValid "b*" "yi" = true := by decide +kernel
  have hflags : Regex.Flags.ofString "ig" = Regex.Flags.ofString "yi" := by decide
  have hglobal : Flag.global.isIn "ig" = true := by decide
  have hsticky : Flag.sticky.isIn "ig" = false := by decide
  exact ⟨hvalid, hflags, hglobal, hsticky,
    findMatches_eq_selection hvalid hflags hglobal hsticky "Bba🙂b"⟩

end PatternProse
