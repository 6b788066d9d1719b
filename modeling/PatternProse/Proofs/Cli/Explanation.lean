import PatternProse.Explain
import PatternProse.Proofs.Cli.InvalidPattern

/-!
# Escape characters in explanations

The sentences that explain a pattern and its flags are put together from the texts of tokens and
from words without escape characters. So they are inert if the pattern and the flags are.

## Main statements

* `isInert_of_explain?` — the sentence of a token.
* `isInert_explainPattern`, `isInert_explainFlags` — the fragments of a pattern and of flags.
* `answers_explain` — an explanation, or the refusal of a pattern.
-/

namespace PatternProse.Cli

/-! ### Sentences -/

theorem isInert_describe (q : Quantifier) {item : String} (h : IsInert item) (lazy : Bool) :
    IsInert (q.describe item lazy) := by
  have hmode : IsInert (Quantifier.modeRemark lazy) := by
    cases lazy <;> exact isInert_literal rfl
  have hitem : IsInert ("Match " ++ item) := .append (isInert_literal rfl) h
  cases q with
  | zeroOrMore | oneOrMore | zeroOrOne => exact .append (.append hitem (isInert_literal rfl)) hmode
  | exactly n =>
    exact .append (.append (.append hitem (isInert_literal rfl)) (isInert_decimal _))
      (isInert_literal rfl)
  | atLeast n =>
    exact .append (.append (.append (.append hitem (isInert_literal rfl)) (isInert_decimal _))
      (isInert_literal rfl)) hmode
  | between n m =>
    exact .append (.append (.append (.append (.append (.append hitem (isInert_literal rfl))
      (isInert_decimal _)) (isInert_literal rfl)) (isInert_decimal _)) (isInert_literal rfl)) hmode

theorem isInert_itemPhrase {item : Option (List Char)} (h : ∀ cs ∈ item, escapeCharacter ∉ cs) :
    IsInert (Token.itemPhrase item) := by
  cases item with
  | none => exact isInert_literal rfl
  | some cs =>
    exact .append (.append (isInert_literal rfl) (isInert_ofList (h cs rfl))) (isInert_literal rfl)

theorem isInert_quantifierSentence {token : List Char} {lazy : Bool} {item : Option (List Char)}
    (htoken : escapeCharacter ∉ (Token.quantifier token lazy).text)
    (hitem : ∀ cs ∈ item, escapeCharacter ∉ cs) :
    IsInert (Token.quantifierSentence token lazy item) := by
  rw [Token.quantifierSentence]
  split
  · exact isInert_describe _ (isInert_itemPhrase hitem) lazy
  · exact .append (isInert_literal rfl) (isInert_ofList htoken)

theorem isInert_escapeSentence {escaped : Option Char}
    (h : escapeCharacter ∉ (Token.escape escaped).text) :
    IsInert (Token.escapeSentence escaped) := by
  unfold Token.escapeSentence
  split
  iterate 11 exact isInert_literal rfl
  refine .append (.append (isInert_literal rfl) (isInert_singleton ?_)) (isInert_literal rfl)
  cases escaped with
  | none => decide
  | some c =>
    rintro rfl
    exact h (.tail _ (.head _))

theorem isInert_openerSentence {o : Opener} (h : escapeCharacter ∉ o.text) :
    IsInert o.sentence := by
  cases o with
  | capture | nonCapturing | special => exact isInert_literal rfl
  | named name =>
    have hname : escapeCharacter ∉ name := fun hmem => h (by simp [Opener.text, hmem])
    exact .append (.append (isInert_literal rfl) (isInert_ofList hname)) (isInert_literal rfl)
  | lookaround k => cases k <;> exact isInert_literal rfl

/-- A token is explained in words, with its own text and that of the item before it. -/
theorem isInert_of_explain? {t : Token} {item : Option (List Char)} {kind : FragmentKind}
    {sentence : String} (h : t.explain? item = some (kind, sentence))
    (ht : escapeCharacter ∉ t.text) (hitem : ∀ cs ∈ item, escapeCharacter ∉ cs) :
    IsInert sentence := by
  cases t with
  | literal run =>
    cases h
    exact .append (.append (isInert_literal rfl) (isInert_ofList ht)) (isInert_literal rfl)
  | characterSet negated contents closed =>
    have hcontents : escapeCharacter ∉ contents := fun hmem => ht (by simp [Token.text, hmem])
    cases negated <;> (cases h; exact .append (isInert_literal rfl) (isInert_ofList hcontents))
  | escape escaped => cases h; exact isInert_escapeSentence ht
  | quantifier token lazy => cases h; exact isInert_quantifierSentence ht hitem
  | opener o => cases h; exact isInert_openerSentence ht
  | close => cases h
  | startAnchor | endAnchor | anyCharacter | bar => cases h; exact isInert_literal rfl

/-! ### Fragments -/

/-- Whether what is shown of a fragment has no escape character. -/
structure IsInertFragment (f : Fragment) : Prop where
  sourceText : IsInert f.sourceText
  explanation : IsInert f.explanation

/-- No item that a quantifier could repeat on an open level has an escape character. -/
def IsInertLevels (ls : Levels) : Prop :=
  ∀ item ∈ ls.item :: ls.outer, ∀ cs ∈ item, escapeCharacter ∉ cs

theorem IsInertLevels.after {ls : Levels} (h : IsInertLevels ls) {t : Token}
    (ht : escapeCharacter ∉ t.text) : IsInertLevels (ls.after t) := by
  obtain ⟨item, outer⟩ := ls
  obtain ⟨hitem, houter⟩ := List.forall_mem_cons.1 h
  have htext : ∀ cs ∈ some t.text, escapeCharacter ∉ cs := by
    rintro cs ⟨⟩
    exact ht
  have hnone : ∀ cs ∈ (none : Option (List Char)), escapeCharacter ∉ cs := by simp
  cases t with
  | close =>
    cases outer with
    | nil => exact List.forall_mem_cons.2 ⟨hnone, houter⟩
    | cons around outer =>
      obtain ⟨haround, houter⟩ := List.forall_mem_cons.1 houter
      refine List.forall_mem_cons.2 ⟨?_, houter⟩
      cases item with
      | none => exact haround
      | some cs => exact hitem
  | opener o => exact List.forall_mem_cons.2 ⟨hnone, List.forall_mem_cons.2 ⟨htext, houter⟩⟩
  | _ => exact List.forall_mem_cons.2 ⟨htext, houter⟩

theorem isInert_fragmentsFrom {ls : Levels} {ts : List Token} (hls : IsInertLevels ls)
    (hts : ∀ t ∈ ts, escapeCharacter ∉ t.text) (offset : Nat) :
    ∀ f ∈ fragmentsFrom ls offset ts, IsInertFragment f := by
  induction ts generalizing ls offset with
  | nil => simp [fragmentsFrom]
  | cons t ts ih =>
    obtain ⟨ht, hts⟩ := List.forall_mem_cons.1 hts
    have hrest := ih (hls.after ht) hts (offset + utf8Length t.text)
    rw [fragmentsFrom]
    split
    · next hexplain =>
      have hitem := (List.forall_mem_cons.1 hls).1
      exact List.forall_mem_cons.2
        ⟨⟨isInert_ofList ht, isInert_of_explain? hexplain ht hitem⟩, hrest⟩
    · exact hrest

theorem isInert_explainPattern {pattern : String} (h : IsInert pattern) :
    ∀ f ∈ explainPattern pattern, IsInertFragment f := by
  refine isInert_fragmentsFrom ?_ ?_ 0
  · simp [IsInertLevels]
  · intro t ht hc
    refine h ?_
    rw [← Token.flatMap_text_list pattern.toList]
    exact List.mem_flatMap.2 ⟨t, ht, hc⟩

theorem isInert_flagSentence {c : Char} (h : c ≠ escapeCharacter) : IsInert (flagSentence c) := by
  rw [flagSentence]
  split
  · next flag _ =>
    cases flag <;> exact .append (.append (isInert_literal rfl) (isInert_literal rfl))
      (isInert_literal rfl)
  · exact .append (isInert_literal rfl) (isInert_singleton h)

theorem isInert_flagFragmentsFrom {cs : List Char} (h : escapeCharacter ∉ cs) (offset : Nat) :
    ∀ f ∈ flagFragmentsFrom offset cs, IsInertFragment f := by
  induction cs generalizing offset with
  | nil => simp [flagFragmentsFrom]
  | cons c cs ih =>
    rw [List.mem_cons, not_or] at h
    exact List.forall_mem_cons.2
      ⟨⟨isInert_singleton (Ne.symm h.1), isInert_flagSentence (Ne.symm h.1)⟩, ih h.2 _⟩

theorem isInert_explainFlags {flags : String} (h : IsInert flags) :
    ∀ f ∈ explainFlags flags, IsInertFragment f := isInert_flagFragmentsFrom h 0

/-! ### Explanations -/

/-- Whether what is shown of an explanation has no escape character. -/
structure IsInertExplanation (e : Explanation) : Prop where
  pattern : IsInert e.pattern
  flags : IsInert e.flags
  fragments : ∀ f ∈ e.fragments, IsInertFragment f
  flagFragments : ∀ f ∈ e.flagFragments, IsInertFragment f

/-- A pattern is refused, or explained, without an escape character. -/
theorem answers_explain {pattern flags : String} (hpattern : IsInert pattern)
    (hflags : IsInert flags) :
    Answers (fun e => IsInert e.message) IsInertExplanation (explain pattern flags) := by
  rw [explain]
  split
  · exact .ok ⟨isInert_literal rfl, isInert_literal rfl, by simp, by simp⟩
  · split
    · exact .ok ⟨hpattern, hflags, isInert_explainPattern hpattern, isInert_explainFlags hflags⟩
    · next e he =>
      rw [validate] at he
      split at he
      · cases he
      · next hcompile =>
        cases he
        exact .error (isInert_message_of_compile hcompile hpattern hflags)

end PatternProse.Cli
