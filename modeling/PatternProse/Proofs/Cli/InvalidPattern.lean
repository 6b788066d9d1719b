import PatternProse.Pattern
import PatternProse.Proofs.Answers
import PatternProse.Proofs.Cli.StyledText

/-!
# Escape characters in refusals of patterns

A refusal repeats the pattern and its flags. Of what the pattern stands for it repeats one thing
only, which is the name that a back reference gives. A name may be written with escapes, but all
its characters are those of identifiers.

## Main statements

* `isInert_of_groupName?` — the name of a group.
* `isInert_message_of_compile` — the wording of a refusal.
-/

namespace PatternProse.Cli

open Regex

/-! ### Names -/

theorem ofNat_ne_escapeCharacter {c : Nat}
    (h : Unicode.isIdentifierStart c = true ∨ Unicode.isIdentifierPart c = true) :
    Char.ofNat c ≠ escapeCharacter := by
  intro heq
  have hc : c = 27 := by
    by_cases hvalid : c.isValidChar
    · have hnat : (Char.ofNat c).toNat = c := by
        rw [Char.ofNat, dif_pos hvalid]
        rfl
      rw [← hnat, heq]
      rfl
    · rw [Char.ofNat, dif_neg hvalid] at heq
      exact absurd heq (by decide)
  rw [hc] at h
  revert h
  decide

theorem isInert_of_nameRest? {cs name rest : List Char} (h : nameRest? cs = some (name, rest)) :
    escapeCharacter ∉ name := by
  fun_induction nameRest? cs generalizing name with
  | case1 => cases h
  | case2 =>
    cases h
    exact List.not_mem_nil
  | case3 cs c rest' hc _ hpart ih =>
    obtain ⟨⟨more, r⟩, hr, heq⟩ := Option.map_eq_some_iff.1 h
    cases heq
    rw [List.mem_cons, not_or]
    exact ⟨Ne.symm (ofNat_ne_escapeCharacter (.inr hpart)), ih hr⟩
  | case4 => cases h

theorem isInert_of_groupName? {cs rest : List Char} {name : String}
    (h : groupName? cs = some (name, rest)) : IsInert name := by
  unfold groupName? at h
  split at h
  · split at h
    · split at h
      · next hstart =>
        obtain ⟨⟨more, r⟩, hr, heq⟩ := Option.map_eq_some_iff.1 h
        cases heq
        refine isInert_ofList ?_
        rw [List.mem_cons, not_or]
        exact ⟨Ne.symm (ofNat_ne_escapeCharacter (.inl hstart)), isInert_of_nameRest? hr⟩
      · cases h
    · cases h
  · cases h

/-! ### Readers -/

/-- The error that a reader reports, if it does, is worded without an escape character. -/
abbrev IsWorded {α : Type} (r : Except SyntaxError α) : Prop :=
  Answers (fun e => IsInert e.message) (fun _ => True) r

theorem IsWorded.mapRead {α β : Type} {r : Except SyntaxError (α × List Char)} (h : IsWorded r)
    (f : α → β) : IsWorded (mapRead f r) := by
  cases h with
  | ok => exact .ok trivial
  | error h => exact .error h

section Readers

variable {unicode : Bool} {c : Char} {cs : List Char} {flags : Flags} {scope : Scope}

theorem isWorded_characterEscape : IsWorded (characterEscape unicode c cs) := by
  unfold characterEscape
  split
  iterate 5 exact .ok trivial
  iterate 2
    split
    · exact .ok trivial
    · split
      · exact .error (isInert_literal rfl)
      · exact .ok trivial
  split
  · exact .error (isInert_literal rfl)
  · exact .ok trivial

theorem isWorded_propertyEscape {negated : Bool} : IsWorded (propertyEscape negated cs) := by
  unfold propertyEscape
  split
  · split
    · exact .error (isInert_literal rfl)
    · split
      · exact .ok trivial
      · exact .error (isInert_literal rfl)
  · exact .error (isInert_literal rfl)

theorem isWorded_digitEscape {d : Nat} : IsWorded (digitEscape unicode d cs) := by
  unfold digitEscape
  split
  · split
    · exact .ok trivial
    · exact .error (isInert_literal rfl)
  · exact .ok trivial

theorem isWorded_classEscape : IsWorded (classEscape unicode cs) := by
  unfold classEscape
  split
  · exact .error (isInert_literal rfl)
  · split
    · exact .ok trivial
    split
    · exact .ok trivial
    split
    · exact .ok trivial
    split
    · split
      · split
        · exact .error (isInert_literal rfl)
        · exact .ok trivial
      · split
        · exact .ok trivial
        split
        · exact .error (isInert_literal rfl)
        · exact .ok trivial
    split
    · exact isWorded_propertyEscape.mapRead _
    split
    · exact isWorded_digitEscape.mapRead _
    · exact isWorded_characterEscape.mapRead _

theorem isWorded_classAtom : IsWorded (classAtom unicode c cs) := by
  unfold classAtom
  split
  · exact isWorded_classEscape
  · exact .ok trivial

theorem isWorded_rangeItems {a b : ClassAtom} : IsWorded (rangeItems unicode a b) := by
  unfold rangeItems
  split
  · split
    · exact .ok trivial
    · exact .error (isInert_literal rfl)
  · split
    · exact .error (isInert_literal rfl)
    · exact .ok trivial

theorem isWorded_classItems : IsWorded (classItems unicode cs) := by
  fun_induction classItems unicode cs with
  | case1 => exact .error (isInert_literal rfl)
  | case2 => exact .ok trivial
  | case3 c cs _ e ha => exact .error (isWorded_classAtom.of_error ha)
  | case4 => exact .ok trivial
  | case5 c cs _ a d rest ha _ e hb => exact .error (isWorded_classAtom.of_error hb)
  | case6 c cs _ a d rest ha _ b rest' hb e he => exact .error (isWorded_rangeItems.of_error he)
  | case7 c cs _ a d rest ha _ b rest' hb items hitems ih => exact ih.mapRead _
  | case8 c cs _ a rest _ ha ih => exact ih.mapRead _

theorem isWorded_numberEscape : IsWorded (numberEscape scope flags c cs) := by
  simp only [numberEscape]
  split
  · exact .ok trivial
  split
  · exact .error (isInert_literal rfl)
  split
  · exact .ok trivial
  · exact .ok trivial

/-- The one error that repeats something gives the name of a group. -/
theorem isWorded_namedReference : IsWorded (namedReference scope cs) := by
  unfold namedReference
  split
  · exact .error (isInert_literal rfl)
  · next hname =>
    split
    · exact .ok trivial
    · exact .error (.append (isInert_literal rfl) (isInert_of_groupName? hname))

theorem isWorded_atomEscape : IsWorded (atomEscape scope flags cs) := by
  unfold atomEscape
  split
  · exact .error (isInert_literal rfl)
  · split
    · exact .ok trivial
    split
    · exact .ok trivial
    split
    · exact .ok trivial
    split
    · split
      · split
        · exact .ok trivial
        split
        · exact .error (isInert_literal rfl)
        · exact .ok trivial
      · split
        · exact .error (isInert_literal rfl)
        · exact .ok trivial
    split
    · exact isWorded_propertyEscape.mapRead _
    split
    · exact isWorded_namedReference
    split
    · exact isWorded_digitEscape.mapRead _
    split
    · exact isWorded_numberEscape
    · exact isWorded_characterEscape.mapRead _

variable {st : ParseState} {allowed : Bool} {groups : GroupRange} {n : Node}

theorem isWorded_quantify : IsWorded (quantify unicode allowed groups n cs) := by
  unfold quantify
  split
  · split
    · exact .error (isInert_literal rfl)
    · exact .ok trivial
  · split
    · exact .error (isInert_literal rfl)
    split
    · exact .error (isInert_literal rfl)
    · exact .ok trivial

theorem isWorded_term : IsWorded (st.term allowed groups n cs) := isWorded_quantify.mapRead _

theorem isWorded_openGroup : IsWorded (st.openGroup cs) := by
  unfold ParseState.openGroup
  split
  iterate 5 exact .ok trivial
  · split
    · exact .ok trivial
    · exact .error (isInert_literal rfl)
  · exact .error (isInert_literal rfl)
  · split
    · exact .ok trivial
    · exact .error (isInert_literal rfl)
  · exact .ok trivial

theorem isWorded_closeGroup : IsWorded (st.closeGroup cs) := by
  unfold ParseState.closeGroup
  split
  · exact .error (isInert_literal rfl)
  · exact isWorded_term

theorem isWorded_bracket : IsWorded (st.bracket cs) := by
  simp only [ParseState.bracket]
  split
  · exact isWorded_term
  · next h => exact .error (isWorded_classItems.of_error h)

theorem isWorded_escape : IsWorded (st.escape scope cs) := by
  unfold ParseState.escape
  split
  · exact isWorded_term
  · next h => exact .error (isWorded_atomEscape.of_error h)

theorem isWorded_step : IsWorded (st.step scope c cs) := by
  unfold ParseState.step
  split
  · exact .ok trivial
  · exact isWorded_openGroup
  · exact isWorded_closeGroup
  iterate 3 exact isWorded_term
  · exact isWorded_bracket
  · exact isWorded_escape
  iterate 3 exact .error (isInert_literal rfl)
  · split
    · exact .error (isInert_literal rfl)
    split
    · exact .error (isInert_literal rfl)
    · exact isWorded_term
  iterate 2
    split
    · exact .error (isInert_literal rfl)
    · exact isWorded_term
  · exact isWorded_term

theorem isWorded_finish : IsWorded (st.finish scope cs) := by
  fun_induction ParseState.finish scope st cs with
  | case1 => exact .ok trivial
  | case2 => exact .error (isInert_literal rfl)
  | case3 _ _ _ _ _ _ ih => exact ih
  | case4 _ _ _ _ h => exact .error (isWorded_step.of_error h)

theorem isWorded_captureNames {names : List (Option String)} :
    IsWorded (captureNames names cs) := by
  fun_induction captureNames names cs with
  | case1 => exact .ok trivial
  | case4 => exact .error (isInert_literal rfl)
  | _ => assumption

end Readers

theorem isWorded_ofPattern {pattern flags : String} : IsWorded (Regex.ofPattern pattern flags) := by
  rw [ofPattern, ofChars]
  split
  · exact isWorded_finish
  · next h => exact .error (isWorded_captureNames.of_error h)

/-- The refusal of a pattern is inert if the pattern and its flags are. -/
theorem isInert_message_of_compile {pattern flags : String} {e : InvalidPattern}
    (h : compile pattern flags = .error e) (hpattern : IsInert pattern) (hflags : IsInert flags) :
    IsInert e.message := by
  rw [compile] at h
  split at h
  · cases h
  · next cause hcause =>
    cases h
    have hcause := isWorded_ofPattern.of_error hcause
    exact .append (.append (.append (.append (.append (isInert_literal rfl) hpattern)
      (isInert_literal rfl)) hflags) (isInert_literal rfl)) hcause

end PatternProse.Cli
