import PatternProse.Match
import PatternProse.Proofs.Block.Validity

/-!
# Groups around what is repeated

A repetition writes a group around what it repeats unless this is a single character. The group
could stand around a single character as well: the pattern would stand for the same regular
expression, or be refused for the same reason. Only the anchors differ, which may not be quantified
without a group.

The main statement is `Block.findMatches_wrapped_iff`.
-/

namespace PatternProse

/-- What comes of a search is told by what the pattern is read as. -/
theorem mapError_findMatches (pattern flags text : String) :
    (findMatches pattern flags text).mapError InvalidPattern.detail =
      ((Regex.ofPattern pattern flags).mapError Regex.SyntaxError.message).map fun re =>
        (re.matchesFrom (Subject.ofString text).chars (Flag.global.isIn flags)
          (Flag.sticky.isIn flags) 0 0).map (·.toMatch (Subject.ofString text)) := by
  rw [findMatches, compile]
  cases Regex.ofPattern pattern flags <;> rfl

namespace Block

open Regex ParseState

theorem captureNames_chars (q : Quantifier) (names : List (Option String)) :
    captureNames names q.chars = .ok names := by
  have h := captureNames_quantifier q names []
  rwa [List.append_nil, captureNames] at h

/-- What comes of a pattern that is one term before a quantifier, where `groups` capture groups have
been opened. -/
theorem resume_term_quantifier (q : Quantifier) (scope : Scope) (flags : Flags) (groups : Nat)
    (allowed : Bool) (n : Regex.Node) :
    resume scope (term (addGroups { flags } groups) allowed ⟨0, groups⟩ n q.chars) =
      if allowed then
        if q.isReversed then .error .invalidQuantifier
        else .ok ⟨.quantified (.ofQuantifier q) ⟨0, groups⟩ n, List.replicate groups none⟩
      else .error .quantifierNotAllowed := by
  have hempty : startsQuantifier [] = false := rfl
  have hterm := term_quantifier hempty q (addGroups { flags } groups) allowed ⟨0, groups⟩ n
  rw [List.append_nil] at hterm
  rw [hterm]
  cases allowed with
  | false => rfl
  | true =>
    cases q.isReversed with
    | true => rfl
    | false =>
      simp only [if_true, Bool.false_eq_true, if_false, resume]
      rw [ParseState.finish]
      simp [addGroups, push, body, Node.sequence, Node.choice]

/-- One character before a quantifier is read as one term, which an anchor may not be. -/
theorem Brief.ofChars_quantified {b : Block} {c : Char} (h : Brief b [c]) (q : Quantifier)
    (flags : Flags) :
    Regex.ofChars flags (c :: q.chars) =
      if isBareAnchor [c] then .error .quantifierNotAllowed
      else if q.isReversed then .error .invalidQuantifier
      else .ok ⟨.quantified (.ofQuantifier q) ⟨0, 0⟩ (b.reading.node flags 0), []⟩ := by
  obtain ⟨n, hreading, hstep⟩ := h.exists_term
  have hnode : b.reading.node flags 0 = n flags := by
    rw [hreading]
    rfl
  have hresume := resume_term_quantifier q ⟨flags, []⟩ flags 0 (!isBareAnchor [c]) (n flags)
  rw [Regex.ofChars, captureNames_of_notMem h.notMem, captureNames_chars, hnode]
  dsimp only
  rw [finish_cons, hstep]
  refine hresume.trans ?_
  cases isBareAnchor [c] <;> rfl

/-- What stands in a group before a quantifier is read as one term. -/
theorem ofChars_wrapped {b : Block} (h : b.isSound = true) (q : Quantifier) (flags : Flags) :
    Regex.ofChars flags ('(' :: '?' :: ':' :: (b.chars ++ ')' :: q.chars)) =
      if q.isReversed then .error .invalidQuantifier
      else .ok ⟨.quantified (.ofQuantifier q) ⟨0, b.reading.groups⟩ (b.reading.node flags 0),
        List.replicate b.reading.groups none⟩ := by
  have hcontent := hasOutcome_chars b
  have hstart := startsQuantifier_chars b
  have hnames := names_enclosed opens_nonCapturing hcontent hstart [] q.chars
  rw [captureNames_chars, Nat.zero_add, List.nil_append] at hnames
  obtain ⟨-, hfinish⟩ | ⟨hok, -⟩ := finish_enclosed opens_nonCapturing hcontent hstart
    ⟨flags, List.replicate b.reading.groups none⟩ { flags } q.chars
  · simp only [List.cons_append, List.nil_append, List.length_nil, Nat.zero_add] at hnames hfinish
    rw [Regex.ofChars, hnames]
    dsimp only
    rw [hfinish]
    exact resume_term_quantifier q _ flags b.reading.groups true _
  · rw [h] at hok
    cases hok

/-- Before a quantifier a group can be left out, but for that around an anchor. -/
theorem ofChars_repeated {b : Block} (hne : b.chars ≠ []) (q : Quantifier) (flags : Flags) :
    Regex.ofChars flags (repeated b.chars ++ q.chars) =
      if isBareAnchor b.chars then .error .quantifierNotAllowed
      else Regex.ofChars flags ('(' :: '?' :: ':' :: (b.chars ++ ')' :: q.chars)) := by
  cases hlong : isWrapped b.chars with
  | true => simp [repeated_of_isWrapped hlong, not_isBareAnchor_of_isWrapped hlong]
  | false =>
    have hlength := not_isWrapped_length hlong
    have hpos := List.length_pos_iff.2 hne
    obtain ⟨c, hc⟩ := List.length_eq_one_iff.1 (by omega : b.chars.length = 1)
    have hbrief := hc ▸ brief_of_not_isWrapped hlong
    have hgroups : b.reading.groups = 0 := by
      obtain ⟨n, hreading, -⟩ := hbrief.exists_term
      rw [hreading]
      rfl
    have hrepeated : repeated b.chars = [c] := by
      rw [repeated_of_not_isWrapped hlong, hc]
      rfl
    rw [hrepeated, List.singleton_append, hbrief.ofChars_quantified,
      ofChars_wrapped hbrief.isSound_eq_true, hgroups, hc]
    rfl

/-- The group around an anchor can be repeated, if the bounds of the quantifier are in order. -/
theorem eq_invalidQuantifier_of_ofChars {b : Block} (h : isBareAnchor b.chars = true)
    {q : Quantifier} {flags : Flags} {e : SyntaxError}
    (he : Regex.ofChars flags ('(' :: '?' :: ':' :: (b.chars ++ ')' :: q.chars)) = .error e) :
    e = .invalidQuantifier := by
  have hlong : isWrapped b.chars = false := by
    rw [← Bool.not_eq_true]
    intro hlong
    rw [not_isBareAnchor_of_isWrapped hlong] at h
    cases h
  rw [ofChars_wrapped (brief_of_not_isWrapped hlong).isSound_eq_true] at he
  split at he <;> cases he
  rfl

theorem isBareAnchor_chars_iff {b : Block} :
    isBareAnchor b.chars = true ↔ b.pattern = "^" ∨ b.pattern = "$" := by
  have hpattern (c : Char) : b.pattern = String.singleton c ↔ b.chars = [c] := by
    rw [pattern, String.singleton_eq_ofList, String.ofList_inj]
  rw [isBareAnchor, Bool.or_eq_true, beq_iff_eq, beq_iff_eq, ← hpattern, ← hpattern]
  rfl

/-- Leaving out the group around what a repetition repeats does not change what a search finds, or
why the pattern is refused, unless an anchor is repeated. -/
theorem findMatches_wrapped_iff {b : Block} (hb : b.pattern ≠ "") (q : Quantifier)
    (flags text : String) :
    (findMatches (repetition q (some b)).pattern flags text).mapError InvalidPattern.detail =
        (findMatches ("(?:" ++ b.pattern ++ ")" ++ q.token) flags text).mapError
          InvalidPattern.detail ↔
      b.pattern ≠ "^" ∧ b.pattern ≠ "$" := by
  have hpattern : Regex.ofPattern (repetition q (some b)).pattern flags =
      Regex.ofChars (.ofString flags) (repeated b.chars ++ q.chars) := by
    simp [Regex.ofPattern, pattern, chars, charsOfBody]
  have hwrapped : Regex.ofPattern ("(?:" ++ b.pattern ++ ")" ++ q.token) flags =
      Regex.ofChars (.ofString flags) ('(' :: '?' :: ':' :: (b.chars ++ ')' :: q.chars)) := by
    simp [Regex.ofPattern, pattern, Quantifier.token]
  have hne : b.chars ≠ [] := by
    intro hchars
    rw [pattern, hchars] at hb
    exact hb rfl
  rw [mapError_findMatches, mapError_findMatches, hpattern, hwrapped, ofChars_repeated hne,
    ← not_or, ← isBareAnchor_chars_iff]
  cases hanchor : isBareAnchor b.chars with
  | false => exact iff_of_true rfl Bool.false_ne_true
  | true =>
    refine iff_of_false (fun hsame => ?_) (not_not_intro rfl)
    cases hre : Regex.ofChars (.ofString flags)
        ('(' :: '?' :: ':' :: (b.chars ++ ')' :: q.chars)) with
    | ok re =>
      rw [hre] at hsame
      cases hsame
    | error e =>
      obtain rfl := eq_invalidQuantifier_of_ofChars hanchor hre
      rw [hre] at hsame
      exact absurd (Except.error.inj hsame) (by decide)

theorem findMatches_wrapped_iff_alternatives :
    (alternatives [literal "é"]).pattern ≠ "" ∧
      ((findMatches (repetition (.atLeast 2) (some (alternatives [literal "é"]))).pattern
            "giu" "eéÉé").mapError InvalidPattern.detail =
          (findMatches ("(?:" ++ (alternatives [literal "é"]).pattern ++ ")" ++
            (Quantifier.atLeast 2).token) "giu" "eéÉé").mapError InvalidPattern.detail ↔
        (alternatives [literal "é"]).pattern ≠ "^" ∧ (alternatives [literal "é"]).pattern ≠ "$") := by
  have h : (alternatives [literal "é"]).pattern ≠ "" := by decide
  exact ⟨h, findMatches_wrapped_iff h (.atLeast 2) "giu" "eéÉé"⟩

end Block

end PatternProse
