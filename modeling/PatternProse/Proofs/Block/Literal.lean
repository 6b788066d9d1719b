import PatternProse.Proofs.Block.Sequence
import PatternProse.Proofs.Match

/-!
# What literal blocks match

Whatever text a literal block holds, its pattern finds what a plain search for the text finds. No
character of the text means anything else to the regular expression, with or without the flag `u`.

## Main definitions

* `Occurrences` — the matches that a plain search for some characters finds.
* `Regex.Finds` — regular expressions that match some characters and nothing else.

The main statement is `Block.findMatches_literal`.
-/

namespace PatternProse

/-- The matches that a search for some characters finds from a byte offset on: each stands where
the characters first occur behind the one before it. -/
inductive Occurrences (needle : List Char) : (offset : Nat) → List Char → List Match → Prop
  | none {offset : Nat} {text : List Char} :
    ¬ needle <:+: text → Occurrences needle offset text []
  | found {offset : Nat} {before after : List Char} {ms : List Match} :
    (∀ before' after', before ++ (needle ++ after) = before' ++ (needle ++ after') →
      before.length ≤ before'.length) →
    Occurrences needle (offset + utf8Length before + utf8Length needle) after ms →
    Occurrences needle offset (before ++ (needle ++ after))
      (⟨⟨offset + utf8Length before, offset + utf8Length before + utf8Length needle⟩,
        String.ofList needle, []⟩ :: ms)

/-- What occurs in a text has a first occurrence. -/
theorem exists_first {needle text : List Char} (h : needle <:+: text) :
    ∃ before after, text = before ++ (needle ++ after) ∧
      ∀ before' after', before ++ (needle ++ after) = before' ++ (needle ++ after') →
        before.length ≤ before'.length := by
  induction text with
  | nil =>
    obtain rfl := List.infix_nil.1 h
    exact ⟨[], [], rfl, by simp⟩
  | cons c text ih =>
    by_cases hhere : needle <+: c :: text
    · obtain ⟨after, hafter⟩ := hhere
      exact ⟨[], after, hafter.symm, by simp⟩
    · obtain ⟨before, after, rfl, hfirst⟩ := ih ((List.infix_cons_iff.1 h).resolve_left hhere)
      refine ⟨c :: before, after, rfl, ?_⟩
      intro before' after' heq
      cases before' with
      | nil => exact absurd ⟨after', heq.symm⟩ hhere
      | cons d before' =>
        simp only [List.cons_append, List.cons.injEq] at heq
        exact Nat.succ_le_succ (hfirst before' after' heq.2)

namespace Regex

/-! ### Characters that stand for themselves -/

theorem same_exact (c d : Char) : Casing.exact.same c.toNat d.toNat = (c == d) := by
  rw [Casing.same, Casing.canonical, Casing.canonical, Bool.or_self, Bool.eq_iff_iff, beq_iff_eq,
    beq_iff_eq, Char.toNat_inj]

/-- Characters that stand for themselves match just where they stand in the text. -/
theorem run_sequence_chars (text : Array Char) (cs : List Char) (st : MatchState)
    (k : Continuation) :
    (Node.sequence (cs.map fun c => .char .exact c.toNat)).run text false st k =
      if cs <+: text.toList.drop st.position then
        k { st with position := st.position + cs.length }
      else none := by
  induction cs generalizing st with
  | nil => simp [Node.sequence, Node.run]
  | cons c cs ih =>
    rw [List.map_cons, Node.run_sequence_cons, Node.run]
    have hnext : text[st.position]? = (text.toList.drop st.position).head? := by simp
    cases hrest : text.toList.drop st.position with
    | nil =>
      rw [hrest, List.head?_nil] at hnext
      simp [MatchState.read?, hnext]
    | cons d rest =>
      have hdrop : text.toList.drop (st.position + 1) = rest := by
        rw [← List.drop_drop, hrest, List.drop_one, List.tail_cons]
      have hlength : st.position + (c :: cs).length = st.position + 1 + cs.length := by
        rw [List.length_cons]
        omega
      rw [hrest, List.head?_cons] at hnext
      rw [hlength]
      by_cases hc : c = d
      · subst hc
        simp [MatchState.read?, hnext, same_exact, ih, hdrop, List.cons_prefix_cons]
      · simp [MatchState.read?, hnext, same_exact, hc, List.cons_prefix_cons]

/-! ### Searches -/

/-- The regular expression matches some characters wherever they stand, and nothing else. -/
def Finds (re : Regex) (text : Array Char) (needle : List Char) : Prop :=
  ∀ i, re.matchAt? text i =
    if needle <+: text.toList.drop i then some ⟨i + needle.length, #[]⟩ else none

variable {re : Regex} {text : Array Char} {needle : List Char}

theorem Finds.nextMatch?_eq_none (h : re.Finds text needle) {start : Nat}
    (hnone : ¬ needle <:+: text.toList.drop start) : re.nextMatch? text start = none := by
  fun_induction nextMatch? re text start with
  | case1 start hs final hfinal =>
    rw [h start] at hfinal
    split at hfinal
    · next hhere => exact absurd hhere.isInfix hnone
    · cases hfinal
  | case2 start hs _ ih =>
    apply ih
    intro hoccurs
    rw [← List.drop_drop, List.drop_one] at hoccurs
    exact hnone (hoccurs.trans (List.tail_suffix _).isInfix)
  | case3 => rfl

/-- The next match is at the first place where the characters occur. -/
theorem Finds.nextMatch?_eq_some (h : re.Finds text needle) {done before after : List Char}
    (htext : text.toList = done ++ (before ++ (needle ++ after)))
    (hfirst : ∀ before' after', before ++ (needle ++ after) = before' ++ (needle ++ after') →
      before.length ≤ before'.length) :
    re.nextMatch? text done.length =
      some ⟨(done ++ before).length, (done ++ before).length + needle.length, #[]⟩ := by
  induction before generalizing done with
  | nil =>
    have hsize : done.length ≤ text.size := by simp [← Array.length_toList, htext]
    have hmatch := h done.length
    rw [htext, List.drop_left, List.nil_append, if_pos (List.prefix_append _ _)] at hmatch
    rw [nextMatch?, if_pos hsize, hmatch, List.append_nil]
  | cons c before ih =>
    have hsize : done.length ≤ text.size := by simp [← Array.length_toList, htext]
    have hnot : ¬ needle <+: text.toList.drop done.length := by
      rw [htext, List.drop_left]
      rintro ⟨after', hafter⟩
      exact absurd (hfirst [] after' hafter.symm) (by simp)
    have hmatch := h done.length
    rw [if_neg hnot] at hmatch
    have hrest : ∀ before' after', before ++ (needle ++ after) = before' ++ (needle ++ after') →
        before.length ≤ before'.length := by
      intro before' after' heq
      exact Nat.le_of_succ_le_succ
        (hfirst (c :: before') after' (by rw [List.cons_append, heq, List.cons_append]))
    have hnext := @ih (done ++ [c]) (by simp [htext]) hrest
    rw [nextMatch?, if_pos hsize, hmatch]
    simpa using hnext

/-- A search for characters finds their occurrences. -/
theorem Finds.exists_occurrences {text : String}
    (h : re.Finds (Subject.ofString text).chars needle) (hne : needle ≠ [])
    {done rest : List Char} (htext : text.toList = done ++ rest) (expected : Nat) :
    ∃ found, re.matchesFrom (Subject.ofString text).chars true false expected done.length = found ∧
      Occurrences needle (utf8Length done) rest
        (found.map (·.toMatch (Subject.ofString text))) := by
  have hchars : (Subject.ofString text).chars.toList = text.toList := rfl
  -- every occurrence leaves less of the text, since there is something to search for
  induction hn : rest.length using Nat.strongRecOn generalizing done rest expected with
  | _ n ih =>
    by_cases hoccurs : needle <:+: rest
    · obtain ⟨before, after, rfl, hfirst⟩ := exists_first hoccurs
      have hnext := h.nextMatch?_eq_some (hchars.trans htext) hfirst
      have hbefore : text.toList = (done ++ before) ++ (needle ++ after) := by simp [htext]
      have hafter : text.toList = (done ++ before ++ needle) ++ after := by simp [htext]
      have hpos : 0 < needle.length := List.length_pos_iff.2 hne
      have hresume : Found.resume ⟨(done ++ before).length,
          (done ++ before).length + needle.length, #[]⟩ = (done ++ before ++ needle).length := by
        simp only [Found.resume, List.length_append]
        omega
      have hshorter : after.length < n := by
        simp only [List.length_append] at hn
        omega
      obtain ⟨found, hfound, hoccurrences⟩ :=
        ih _ hshorter hafter ((done ++ before).length + needle.length) rfl
      refine ⟨_, matchesFrom_some hnext true false expected, ?_⟩
      simp only [Bool.false_and, Bool.false_eq_true, if_false, if_true, hresume, hfound,
        List.map_cons, Found.toMatch_ofString hbefore]
      rw [utf8Length_append, utf8Length_append] at hoccurrences
      rw [utf8Length_append]
      exact .found hfirst hoccurrences
    · refine ⟨[], matchesFrom_none (h.nextMatch?_eq_none ?_) true false expected, .none hoccurs⟩
      rwa [hchars, htext, List.drop_left]

end Regex

namespace Block

open Regex

/-- Under flags that do not make cases alike the pattern of a text finds the text. -/
theorem exists_compile_literal {flags : String} (h : Flag.ignoreCase.isIn flags = false)
    (text : String) :
    ∃ re, compile (literal text).pattern flags = .ok re ∧
      ∀ chars, re.Finds chars text.toList := by
  have hcasing : (Flags.ofString flags).casing = .exact := by
    simp [Flags.casing, Flags.ofString, h]
  have hnode : (literal text).reading.node (Flags.ofString flags) 0 =
      Regex.Node.sequence (text.toList.map fun c => .char .exact c.toNat) := by
    rw [← hcasing, reading]
    rfl
  refine ⟨_, compile_pattern (by rw [isSound]) flags, ?_⟩
  intro chars i
  rw [matchAt?, hnode, run_sequence_chars]
  rfl

/-- The pattern of a text finds what a plain search for the text finds: with the flag `g` all
occurrences, and otherwise the first one. -/
theorem findMatches_literal {text flags : String} (htext : text ≠ "")
    (hflags : ∀ c ∈ flags.toList, c ∈ ['g', 'm', 's', 'u']) (subject : String) :
    ∃ ms, Occurrences text.toList 0 subject.toList ms ∧
      findMatches (literal text).pattern flags subject =
        .ok (if Flag.global.isIn flags then ms else ms.take 1) := by
  have habsent : ∀ f : Flag, f.char ∉ ['g', 'm', 's', 'u'] → f.isIn flags = false := by
    intro f hf
    rw [Flag.isIn, ← Bool.not_eq_true, List.contains_iff_mem]
    exact fun hmem => hf (hflags _ hmem)
  have hsticky : Flag.sticky.isIn flags = false := habsent .sticky (by decide)
  obtain ⟨re, hcompile, hre⟩ := exists_compile_literal (habsent .ignoreCase (by decide)) text
  have hstart : subject.toList = [] ++ subject.toList := rfl
  obtain ⟨found, hfound, hoccurrences⟩ :=
    (hre (Subject.ofString subject).chars).exists_occurrences (by simpa using htext) hstart 0
  refine ⟨_, hoccurrences, ?_⟩
  rw [List.length_nil] at hfound
  rw [findMatches, hcompile]
  cases hglobal : Flag.global.isIn flags with
  | true => simp [hsticky, hfound]
  | false => simp [hsticky, matchesFrom_eq_take, hfound]

theorem findMatches_literal_backslash :
    "\\1(" ≠ "" ∧ (∀ c ∈ "sug".toList, c ∈ ['g', 'm', 's', 'u']) ∧
      ∃ ms, Occurrences "\\1(".toList 0 "é\\1(\\1(".toList ms ∧
        findMatches (literal "\\1(").pattern "sug" "é\\1(\\1(" =
          .ok (if Flag.global.isIn "sug" then ms else ms.take 1) := by
  have hflags : ∀ c ∈ "sug".toList, c ∈ ['g', 'm', 's', 'u'] := by simp
  exact ⟨by decide, hflags, findMatches_literal (by decide) hflags _⟩

end Block

end PatternProse
