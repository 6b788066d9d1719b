import Mathlib.Data.List.Basic
import PatternProse.Pattern
import PatternProse.Proofs.Block.Rendering
import PatternProse.Proofs.Regex.Branches

/-!
# Reading the tokens of blocks

A text that is read inside of a larger pattern either leads on to what comes after it, from a state
that its reading tells, or makes the pattern no regular expression. The lemmas say what comes of
the tokens that blocks are written with: escaped characters, classes, groups and quantifiers.

## Main definitions

* `Regex.Outcome` — what comes of a text that stands before another one.
* `Regex.CharClass.ofChars` — the class that stands for some characters in brackets.
-/

namespace PatternProse

namespace Regex

open ParseState

/-- What comes of a text that is read before `rest`: either `rest` is read next from the state
`st`, or reading has failed. -/
def Outcome (scope : Scope) (st : ParseState) (rest : List Char) (ok : Bool)
    (r : Except SyntaxError Regex) : Prop :=
  (ok = true ∧ r = finish scope st rest) ∨ (ok = false ∧ ∃ e, r = .error e)

theorem outcome_finish (scope : Scope) (st : ParseState) (rest : List Char) :
    Outcome scope st rest true (finish scope st rest) := .inl ⟨rfl, rfl⟩

theorem outcome_error {scope : Scope} {st : ParseState} {rest : List Char} (e : SyntaxError) :
    Outcome scope st rest false (.error e) := .inr ⟨rfl, e, rfl⟩

/-- Reads on after a step. -/
def resume (scope : Scope) : Except SyntaxError (ParseState × List Char) → Except SyntaxError Regex
  | .ok (st, rest) => finish scope st rest
  | .error e => .error e

theorem finish_cons (scope : Scope) (st : ParseState) (c : Char) (cs : List Char) :
    finish scope st (c :: cs) = resume scope (step scope st c cs) := by
  rw [finish]
  split
  · next h => rw [h]; rfl
  · next h => rw [h]; rfl

/-! ### Quantifiers -/

theorem counts?_of_startsQuantifier {cs : List Char} (h : startsQuantifier cs = false) :
    counts? cs = none := by
  unfold counts?
  split <;> first | rfl | cases h

theorem greediness_of_startsQuantifier {cs : List Char} (h : startsQuantifier cs = false) :
    greediness cs = (true, cs) := by
  unfold greediness
  split
  · cases h
  · rfl

/-- A term that nothing quantifies is added as it is. -/
theorem term_of_startsQuantifier {cs : List Char} (h : startsQuantifier cs = false)
    (st : ParseState) (allowed : Bool) (groups : GroupRange) (n : Node) :
    st.term allowed groups n cs = .ok (st.push n, cs) := by
  have hbrace : cs.head? ≠ some '{' := head?_ne_of_startsQuantifier (by decide) h
  have hquantify : quantify st.flags.unicode allowed groups n cs = .ok (n, cs) := by
    simp [quantify, counts?_of_startsQuantifier h, hbrace]
  rw [term, hquantify, mapRead]

theorem countOf_digits (n : UInt32) : countOf (Decimal.digits n.toNat) = n.toNat := by
  have hn : n.toNat < 2 ^ 32 := n.toNat_lt
  rw [countOf, Decimal.value_digits, Nat.min_eq_left]
  simp only [maxCount]
  omega

theorem span_digits (n : Nat) {c : Char} (hc : c.isDigit = false) (rest : List Char) :
    (Decimal.digits n ++ c :: rest).takeWhile Char.isDigit = Decimal.digits n ∧
      (Decimal.digits n ++ c :: rest).dropWhile Char.isDigit = c :: rest :=
  Decimal.span_append (fun _ => Decimal.isDigit_of_mem_digits) (by simpa using hc)

/-- The counts of a quantifier are those that its token is read as. -/
theorem counts?_chars (q : Quantifier) (rest : List Char) :
    counts? (q.chars ++ rest) = some (q.counts, rest) := by
  cases q with
  | zeroOrMore | oneOrMore | zeroOrOne => rfl
  | exactly n =>
    have hspan := span_digits n.toNat (c := '}') rfl rest
    simp [Quantifier.chars, Quantifier.counts, counts?, bracedCounts?, hspan, countOf_digits,
      Decimal.digits_ne_nil]
  | atLeast n =>
    have hspan := span_digits n.toNat (c := ',') rfl ('}' :: rest)
    simp [Quantifier.chars, Quantifier.counts, counts?, bracedCounts?, hspan, countOf_digits,
      Decimal.digits_ne_nil]
  | between n m =>
    have hspan := span_digits n.toNat (c := ',') rfl (Decimal.digits m.toNat ++ '}' :: rest)
    have hspan' := span_digits m.toNat (c := '}') rfl rest
    simp [Quantifier.chars, Quantifier.counts, counts?, bracedCounts?, hspan, hspan',
      countOf_digits, Decimal.digits_ne_nil]

/-- The repetition that a quantifier without a mark of laziness stands for. -/
def Repetition.ofQuantifier (q : Quantifier) : Repetition := ⟨q.counts.1, q.counts.2, true⟩

/-- What comes of a term before the token of a quantifier. -/
theorem term_quantifier {rest : List Char} (h : startsQuantifier rest = false) (q : Quantifier)
    (st : ParseState) (allowed : Bool) (groups : GroupRange) (n : Node) :
    st.term allowed groups n (q.chars ++ rest) =
      if allowed then
        if q.isReversed then .error .invalidQuantifier
        else .ok (st.push (.quantified (.ofQuantifier q) groups n), rest)
      else .error .quantifierNotAllowed := by
  rw [term, quantify, counts?_chars]
  simp only [Quantifier.any_counts_lt]
  cases allowed with
  | false => rfl
  | true =>
    cases hreversed : q.isReversed with
    | true => rfl
    | false =>
      rw [greediness_of_startsQuantifier h]
      rfl

/-- A quantified term is read unless it may not be quantified or the counts are reversed. -/
theorem outcome_term_quantifier {q : Quantifier} {rest : List Char}
    (h : startsQuantifier rest = false) (scope : Scope) (st : ParseState) (allowed : Bool)
    (groups : GroupRange) (n : Node) :
    Outcome scope (st.push (.quantified (.ofQuantifier q) groups n)) rest (allowed && !q.isReversed)
      (resume scope (st.term allowed groups n (q.chars ++ rest))) := by
  rw [term_quantifier h]
  cases allowed with
  | false => exact outcome_error _
  | true =>
    cases q.isReversed with
    | true => exact outcome_error _
    | false => exact outcome_finish scope _ rest

/-! ### Capture groups -/

/-- The characters at which the search for capture groups does more than go on. -/
def captureMarks : List Char := ['\\', '[', '(']

theorem captureNames_of_notMem {c : Char} (h : c ∉ captureMarks) (names : List (Option String))
    (cs : List Char) : captureNames names (c :: cs) = captureNames names cs := by
  rw [captureNames]
  all_goals
    intros
    simp_all [captureMarks]

theorem captureNames_append_of_notMem {s : List Char} (h : ∀ c ∈ s, c ∉ captureMarks)
    (names : List (Option String)) (cs : List Char) :
    captureNames names (s ++ cs) = captureNames names cs := by
  induction s with
  | nil => rfl
  | cons c s ih =>
    rw [List.cons_append, captureNames_of_notMem (h c List.mem_cons_self),
      ih fun c hc => h c (.tail _ hc)]

theorem captureNames_quantifier (q : Quantifier) (names : List (Option String)) (cs : List Char) :
    captureNames names (q.chars ++ cs) = captureNames names cs := by
  refine captureNames_append_of_notMem ?_ names cs
  have hmarks : ∀ c ∈ captureMarks, c.isDigit = false ∧ c ∉ ['*', '+', '?', '{', ',', '}'] :=
    List.forall_iff_forall_mem.1 (by decide)
  intro c hc hmark
  obtain ⟨hdigit, hmem⟩ := hmarks c hmark
  rcases Quantifier.isDigit_or_mem_of_mem_chars hc with h | h
  · rw [hdigit] at h
    cases h
  · exact hmem h

theorem captureNames_capture {cs : List Char} (h : cs.head? ≠ some '?')
    (names : List (Option String)) :
    captureNames names ('(' :: cs) = captureNames (names ++ [none]) cs := by
  rw [captureNames]
  rintro ds rfl
  exact h rfl

theorem captureNames_special {cs : List Char} (h : groupName? cs = none)
    (names : List (Option String)) :
    captureNames names ('(' :: '?' :: cs) = captureNames names cs := by
  rw [captureNames]
  split
  · next heq =>
    rw [h] at heq
    cases heq
  · rfl

theorem groupName?_eq_none {c : Char} (h : c ∈ ['=', '!']) (cs : List Char) :
    groupName? ('<' :: c :: cs) = none := by
  have hstart : ∀ c ∈ ['=', '!'], Unicode.isIdentifierStart c.toNat = false :=
    List.forall_iff_forall_mem.1 (by decide)
  have hcode : nameCodePoint? (c :: cs) = some (c.toNat, cs) := by
    rw [nameCodePoint?]
    rintro ds rfl
    exact absurd h (by decide)
  simp [groupName?, hcode, hstart c h]

/-- The mark of a lookaround names no group. -/
theorem captureNames_lookaround (k : Lookaround) (names : List (Option String)) (cs : List Char) :
    captureNames names ('(' :: (k.mark ++ cs)) = captureNames names cs := by
  have hmark : ∀ c ∈ ['<', '=', '!'], c ∉ captureMarks :=
    List.forall_iff_forall_mem.1 (by decide)
  cases k with
  | ahead =>
    exact (captureNames_special rfl names).trans (captureNames_of_notMem (by decide) names cs)
  | notAhead =>
    exact (captureNames_special rfl names).trans (captureNames_of_notMem (by decide) names cs)
  | behind =>
    refine (captureNames_special (groupName?_eq_none (by decide) cs) names).trans ?_
    rw [captureNames_of_notMem (hmark '<' (by decide)),
      captureNames_of_notMem (hmark '=' (by decide))]
  | notBehind =>
    refine (captureNames_special (groupName?_eq_none (by decide) cs) names).trans ?_
    rw [captureNames_of_notMem (hmark '<' (by decide)),
      captureNames_of_notMem (hmark '!' (by decide))]

theorem captureNames_nonCapturing (names : List (Option String)) (cs : List Char) :
    captureNames names ('(' :: '?' :: ':' :: cs) = captureNames names cs :=
  (captureNames_special rfl names).trans (captureNames_of_notMem (by decide) names cs)

theorem captureNames_bracket (names : List (Option String)) (cs : List Char) :
    captureNames names ('[' :: cs) = captureNames names (skipClass cs) := by
  rw [captureNames]

theorem captureNames_escaped (c : Char) (names : List (Option String)) (cs : List Char) :
    captureNames names ('\\' :: c :: cs) = captureNames names cs := by
  rw [captureNames]

/-! ### Characters and escapes -/

theorem step_ordinary {c : Char} (h : c ∉ Block.literalSpecials) (scope : Scope) (st : ParseState)
    (cs : List Char) : step scope st c cs = st.literal c cs := by
  unfold step
  split <;> first | rfl | exact absurd (by decide) h

theorem characterEscape_of_isSyntaxCharacter {c : Char} (h : isSyntaxCharacter c = true)
    (unicode : Bool) (cs : List Char) : characterEscape unicode c cs = .ok (c.toNat, cs) := by
  unfold characterEscape
  split <;> first | cases h | simp [h]

theorem atomEscape_special {c : Char} (h : c ∈ Block.literalSpecials) (scope : Scope)
    (flags : Flags) (cs : List Char) :
    atomEscape scope flags (c :: cs) = .ok (.char flags.casing c.toNat, cs) := by
  have hspecial : ∀ c ∈ Block.literalSpecials, isSyntaxCharacter c = true ∧
      CharClass.escapeItem? c = none ∧ c.isDigit = false ∧
      c ∉ ['b', 'B', 'c', 'p', 'P', 'k', '0'] := List.forall_iff_forall_mem.1 (by decide)
  obtain ⟨hpunctuation, hitem, hdigit, hletter⟩ := hspecial c h
  simp only [List.mem_cons, List.not_mem_nil, or_false, not_or] at hletter
  simp [atomEscape, hitem, hdigit, hletter,
    characterEscape_of_isSyntaxCharacter hpunctuation, mapRead]

theorem classEscape_special {c : Char} (h : c ∈ Block.classSpecials) (unicode : Bool)
    (cs : List Char) : classEscape unicode (c :: cs) = .ok (.point c.toNat, cs) := by
  by_cases hhyphen : c = '-'
  · subst hhyphen
    rfl
  · have hspecial : ∀ c ∈ Block.classSpecials, c ≠ '-' → isSyntaxCharacter c = true ∧
        CharClass.escapeItem? c = none ∧ octalDigit? c = none ∧
        c ∉ ['b', 'c', 'p', 'P'] := List.forall_iff_forall_mem.1 (by decide)
    obtain ⟨hpunctuation, hitem, hdigit, hletter⟩ := hspecial c h hhyphen
    simp only [List.mem_cons, List.not_mem_nil, or_false, not_or] at hletter
    simp [classEscape, hitem, hdigit, hletter, hhyphen,
      characterEscape_of_isSyntaxCharacter hpunctuation, mapRead]

/-! ### Classes -/

theorem classItems_of_classAtom {unicode : Bool} {c : Char} {cs rest : List Char} {a : ClassAtom}
    (hc : c ≠ ']') (ha : classAtom unicode c cs = .ok (a, rest)) (hrest : rest.head? ≠ some '-') :
    classItems unicode (c :: cs) = mapRead (a.item :: ·) (classItems unicode rest) := by
  rw [classItems]
  · split
    · next heq => rw [ha] at heq; cases heq
    · next heq => rw [ha] at heq; cases heq; exact absurd rfl hrest
    · next heq => rw [ha] at heq; cases heq; rfl
  · exact hc

/-- Escaped characters are the items of a class, none of them the end of a range. -/
theorem classItems_escape (unicode : Bool) (cs rest : List Char) :
    classItems unicode (Block.escape Block.classSpecials cs ++ ']' :: rest) =
      .ok (cs.map fun c => .point c.toNat, rest) := by
  induction cs with
  | nil => rw [Block.escape, List.flatMap_nil, List.nil_append, classItems, List.map_nil]
  | cons c cs ih =>
    -- a raw hyphen could make `c` the start of a range
    have hhyphen : (Block.escape Block.classSpecials cs ++ ']' :: rest).head? ≠ some '-' := by
      intro h
      obtain h | h | ⟨-, h⟩ := Block.of_head?_escape h
      · cases h
      · cases h
      · exact h (by decide)
    by_cases hc : c ∈ Block.classSpecials
    · have hatom : classAtom unicode '\\' (c :: (Block.escape Block.classSpecials cs ++
          ']' :: rest)) = .ok (.point c.toNat, _) := classEscape_special hc unicode _
      rw [Block.escape_cons_of_mem hc]
      refine (classItems_of_classAtom (by decide) hatom hhyphen).trans ?_
      rw [ih]
      rfl
    · have hne : c ≠ ']' ∧ c ≠ '\\' := by
        refine ⟨?_, ?_⟩ <;> (rintro rfl; exact hc (by decide))
      have hatom : classAtom unicode c (Block.escape Block.classSpecials cs ++ ']' :: rest) =
          .ok (.point c.toNat, _) := if_neg (by simpa using hne.2)
      rw [Block.escape_cons_of_notMem hc]
      refine (classItems_of_classAtom hne.1 hatom hhyphen).trans ?_
      rw [ih]
      rfl

theorem skipClass_escape (cs rest : List Char) :
    skipClass (Block.escape Block.classSpecials cs ++ ']' :: rest) = rest := by
  induction cs with
  | nil => rfl
  | cons c cs ih =>
    by_cases hc : c ∈ Block.classSpecials
    · rw [Block.escape_cons_of_mem hc]
      exact ih
    · rw [Block.escape_cons_of_notMem hc, List.cons_append, skipClass, ih]
      · rintro d ds rfl
        exact absurd (by decide) hc
      · rintro rfl
        exact hc (by decide)

theorem bracket_of_head?_ne {cs rest : List Char} {st : ParseState} {items : List ClassItem}
    (h : cs.head? ≠ some '^') (hitems : classItems st.flags.unicode cs = .ok (items, rest)) :
    st.bracket cs = st.atom (.set ⟨items, false, st.flags.ignoreCase⟩) rest := by
  unfold bracket
  split
  next negated ds heq =>
    split at heq
    · exact absurd rfl h
    · cases heq
      rw [hitems]

/-- The class that stands for some characters in brackets, each of them escaped if need be, with a
caret before them for `negated`. Without that caret the first of the characters may be taken for
it. -/
def CharClass.ofChars (negated folded : Bool) (cs : List Char) : CharClass :=
  match negated, cs with
  | false, '^' :: cs => ⟨cs.map fun c => .point c.toNat, true, folded⟩
  | negated, cs => ⟨cs.map fun c => .point c.toNat, negated, folded⟩

theorem CharClass.ofChars_of_head?_ne {cs : List Char} (h : cs.head? ≠ some '^') (folded : Bool) :
    ofChars false folded cs = ⟨cs.map fun c => .point c.toNat, false, folded⟩ := by
  unfold ofChars
  split
  · exact absurd rfl h
  · rfl

/-- A class with escaped characters is read as one term. -/
theorem bracket_escape (negated : Bool) (cs rest : List Char) (st : ParseState) :
    st.bracket ((if negated then ['^'] else []) ++
      (Block.escape Block.classSpecials cs ++ ']' :: rest)) =
        st.atom (.set (.ofChars negated st.flags.ignoreCase cs)) rest := by
  have hcaret : ∀ ds, st.bracket ('^' :: (Block.escape Block.classSpecials ds ++ ']' :: rest)) =
      st.atom (.set ⟨ds.map fun c => .point c.toNat, true, st.flags.ignoreCase⟩) rest := by
    intro ds
    simp only [bracket, classItems_escape]
  cases negated with
  | true => exact hcaret cs
  | false =>
    by_cases h : ∃ ds, cs = '^' :: ds
    · obtain ⟨ds, rfl⟩ := h
      rw [Block.escape_cons_of_notMem (by decide)]
      exact hcaret ds
    · have hhead : cs.head? ≠ some '^' := fun hcaret => h (List.head?_eq_some_iff.1 hcaret)
      rw [CharClass.ofChars_of_head?_ne hhead]
      refine bracket_of_head?_ne (fun hcaret => ?_) (classItems_escape _ cs rest)
      obtain hcaret | hcaret | ⟨hcaret, -⟩ := Block.of_head?_escape hcaret
      · cases hcaret
      · cases hcaret
      · exact hhead hcaret

/-! ### Groups -/

theorem openGroup_capture {cs : List Char} (h : cs.head? ≠ some '?') (st : ParseState) :
    st.openGroup cs =
      .ok (st.enter (.capture st.names.length) st.flags (none :: st.names), cs) := by
  unfold openGroup
  split <;> first | rfl | exact absurd rfl h

theorem openGroup_lookaround (k : Lookaround) (st : ParseState) (cs : List Char) :
    st.openGroup (k.mark ++ cs) = .ok (st.enter (.look k) st.flags st.names, cs) := by
  cases k <;> rfl

end Regex

end PatternProse
