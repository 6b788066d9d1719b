import PatternProse.Pattern
import PatternProse.Proofs.Regex.Stepping

/-!
# Scans of valid patterns

A pattern that is valid is read to its end with every group closed. The scan finds the same groups,
but for two things that it sees in another way without the flag `u`: a brace that stands for itself
is scanned as a quantifier up to the next closing brace, and `\x` without two digits after it takes
in two more characters when it is read. Where neither of them covers a parenthesis, a bracket or a
backslash, the scan is balanced.

## Main definitions

* `Skips` — texts of which one is the other without a front part that has no part in the levels.
* `IsClear` — texts that are scanned as they are read.

The main statements are `Regex.ParseState.level_cases`, which says what a step does to the levels,
and `balanced_of_isValid`.
-/

namespace PatternProse

open Regex

/-- The second text has the marks of the first, and is complete if the first one is. -/
structure Skips (cs rest : List Char) : Prop where
  marks_eq : ∀ {μ : Type} {mark : Token → List Token → Option μ}, IsBlind mark →
    marks mark (Token.list cs) = marks mark (Token.list rest)
  hexComplete : hexComplete cs = true → hexComplete rest = true

/-- Whether a text is scanned as it is read: with the flag `u`, or else if nothing is hidden by
braces and every `\x` is complete. -/
def IsClear (unicode : Bool) (cs : List Char) : Prop :=
  unicode = true ∨ (.braces ∉ skeleton cs ∧ hexComplete cs = true)

namespace Skips

variable {unicode : Bool} {cs ds rest : List Char}

theorem trans (h : Skips cs ds) (hrest : Skips ds rest) : Skips cs rest :=
  ⟨fun hmark => (h.marks_eq hmark).trans (hrest.marks_eq hmark),
    fun hcs => hrest.hexComplete (h.hexComplete hcs)⟩

theorem skeleton_eq (h : Skips cs rest) : skeleton cs = skeleton rest := by
  rw [skeleton_eq_marks, skeleton_eq_marks, h.marks_eq isBlind_mark?]

theorem of_passes (h : Passes cs rest) : Skips cs rest :=
  ⟨fun hmark => h.marks_eq hmark, h.hexComplete⟩

/-- A quantifier takes part in no level. -/
theorem of_isQuantified (h : IsQuantified cs rest) : Skips cs rest where
  marks_eq := by
    intro μ mark hmark
    obtain ⟨token, lazy, hclean, hlist⟩ := h.exists_list
    have hflat : (Token.quantifier token lazy).isFlat = true := by
      rw [Token.isFlat, hclean]
      rfl
    rw [hlist, marks, hmark _ _ hflat]
    rfl
  hexComplete := h.hexComplete

/-- An atom takes part in no level, if it is scanned as it is read. -/
theorem of_atom (h : Atom unicode cs rest) (hclear : IsClear unicode cs) : Skips cs rest where
  marks_eq := by
    intro μ mark hmark
    cases h with
    | char h =>
      refine hmark.marks_soft ?_ _
      simp_all [isSimple, isSoft]
    | escape h => exact h.marks_eq hmark
    | bracket h => rw [hmark.marks_bracket, h]
    | brace hunicode h =>
      obtain ⟨hbraces, -⟩ := hclear.resolve_left (by simp [hunicode])
      exact hmark.marks_brace (isFlat_brace hbraces)
  hexComplete := h.hexComplete

end Skips

namespace IsClear

variable {unicode : Bool} {c : Char} {cs rest : List Char}

theorem skips (h : IsClear unicode cs) (hrest : Skips cs rest) : IsClear unicode rest :=
  h.imp_right fun ⟨hbraces, hhex⟩ => ⟨hrest.skeleton_eq ▸ hbraces, hrest.hexComplete hhex⟩

theorem of_opener (h : IsClear unicode ('(' :: cs)) : IsClear unicode (Opener.scan cs).2 := by
  refine h.imp_right fun ⟨hbraces, hhex⟩ => ⟨?_, ?_⟩
  · rw [skeleton_opener, List.mem_cons, not_or] at hbraces
    exact hbraces.2
  · rw [hexComplete_cons (by decide)] at hhex
    exact hexComplete_scanOpener hhex

theorem of_close (h : IsClear unicode (')' :: cs)) : IsClear unicode cs := by
  refine h.imp_right fun ⟨hbraces, hhex⟩ => ⟨?_, ?_⟩
  · rw [skeleton_close, List.mem_cons, not_or] at hbraces
    exact hbraces.2
  · rwa [hexComplete_cons (by decide)] at hhex

end IsClear

namespace Regex.ParseState

theorem skips_term {st st' : ParseState} {allowed : Bool} {groups : GroupRange} {n : Node}
    {cs rest : List Char} (h : st.term allowed groups n cs = .ok (st', rest)) :
    Skips cs rest ∧ st'.frames = st.frames ∧ st'.names = st.names := by
  obtain ⟨m, rfl, ⟨-, rfl⟩ | ⟨-, hquantified⟩⟩ := term_cases h
  · exact ⟨.of_passes (.refl rest), rfl, rfl⟩
  · exact ⟨.of_isQuantified hquantified, rfl, rfl⟩

/-- What a step does to the levels: it opens one, or closes one, or has no part in them. Only
where it opens one there may be another capture group. -/
theorem level_cases {scope : Scope} {st st' : ParseState} {c : Char} {cs rest : List Char}
    (h : step scope st c cs = .ok (st', rest)) (hclear : IsClear st.flags.unicode (c :: cs)) :
    (c = '(' ∧ Skips (Opener.scan cs).2 rest ∧ st'.frames.length = st.frames.length + 1 ∧
      (st'.names = (Opener.scan cs).1.captured?.toList ++ st.names ∨
        ((Opener.scan cs).1 = .special ∧ (Opener.scan cs).2.head? = some '<'))) ∨
    (c = ')' ∧ Skips cs rest ∧ st.frames.length = st'.frames.length + 1 ∧ st'.names = st.names) ∨
    (Skips (c :: cs) rest ∧ st'.frames.length = st.frames.length ∧ st'.names = st.names) := by
  obtain ⟨rfl, rfl, rfl⟩ | ⟨rfl, hopen⟩ | ⟨rfl, hclose⟩ |
    ⟨n, allowed, groups, mid, -, hatom, hterm⟩ := step_cases h (hclear.imp_right And.right)
  · exact .inr (.inr ⟨.of_atom (.char rfl rest) hclear, rfl, rfl⟩)
  · obtain ⟨hrest, kind, flags, names, rfl, -, hnames⟩ := openGroup_cases hopen
    exact .inl ⟨rfl, .of_passes hrest, rfl, hnames⟩
  · obtain ⟨f, frames, allowed, groups, hframes, hterm⟩ := closeGroup_cases hclose
    obtain ⟨hrest, hframes', hnames⟩ := skips_term hterm
    refine .inr (.inl ⟨rfl, hrest, ?_, hnames⟩)
    rw [hframes, hframes', List.length_cons]
  · obtain ⟨hrest, hframes, hnames⟩ := skips_term hterm
    exact .inr (.inr ⟨(Skips.of_atom hatom hclear).trans hrest, by rw [hframes], hnames⟩)

/-- A step leaves a clear text clear. -/
theorem isClear_of_step {scope : Scope} {st st' : ParseState} {c : Char} {cs rest : List Char}
    (h : step scope st c cs = .ok (st', rest)) (hclear : IsClear st.flags.unicode (c :: cs)) :
    IsClear st.flags.unicode rest := by
  obtain ⟨rfl, hrest, -⟩ | ⟨rfl, hrest, -⟩ | ⟨hrest, -⟩ := level_cases h hclear
  · exact hclear.of_opener.skips hrest
  · exact hclear.of_close.skips hrest
  · exact hclear.skips hrest

/-- A text that is read to its end closes all groups that are open before it. -/
theorem closes_of_finish {scope : Scope} {st : ParseState} {cs : List Char} {re : Regex}
    (h : finish scope st cs = .ok re) (huniform : st.IsUniform)
    (hclear : IsClear st.flags.unicode cs) : closes st.frames.length (skeleton cs) = true := by
  fun_induction finish scope st cs with
  | case1 st hframes =>
    rw [List.isEmpty_iff.1 hframes, skeleton_nil]
    rfl
  | case2 => cases h
  | case3 st c cs st' rest hstep ih =>
    obtain ⟨huniform', hunicode⟩ := huniform.step hstep (hclear.imp_right And.right)
    have hclear' := isClear_of_step hstep hclear
    rw [← hunicode] at hclear'
    have hcloses := ih h huniform' hclear'
    obtain ⟨rfl, hrest, hframes, -⟩ | ⟨rfl, hrest, hframes, -⟩ | ⟨hrest, hframes, -⟩ :=
      level_cases hstep hclear
    · rwa [skeleton_opener, hrest.skeleton_eq, closes_opening, ← hframes]
    · rwa [skeleton_close, hrest.skeleton_eq, hframes, closes]
    · rwa [hrest.skeleton_eq, ← hframes]
  | case4 => cases h

end Regex.ParseState

/-- A pattern is clear if the quantifiers of its scan hide nothing. -/
theorem isClear_of_list {unicode : Bool} {cs : List Char}
    (h : unicode = true ∨ (∀ token lazy, .quantifier token lazy ∈ Token.list cs →
      token.any isStructural = false) ∧ hexComplete cs = true) : IsClear unicode cs := by
  refine h.imp_right fun ⟨hbraces, hhex⟩ => ⟨fun hmem => ?_, hhex⟩
  obtain ⟨t, ht, hmark⟩ := List.mem_filterMap.1 hmem
  cases t with
  | quantifier token lazy =>
    rw [Token.mark?, hbraces token lazy ht] at hmark
    cases hmark
  | _ => cases hmark

/-- The scan of a valid pattern is balanced, provided that it has the flag `u` or that no brace of
it hides a parenthesis, a bracket or a backslash and every `\x` stands before two digits. -/
theorem balanced_of_isValid {pattern flags : String} (hvalid : isValid pattern flags = true)
    (hclear : Flag.unicode.isIn flags = true ∨
      (∀ token lazy, .quantifier token lazy ∈ Token.list pattern.toList →
        token.any isStructural = false) ∧ hexComplete pattern.toList = true) :
    Balanced {} (Token.list pattern.toList) := by
  cases hre : compile pattern flags with
  | error e =>
    rw [isValid, validate, hre] at hvalid
    cases hvalid
  | ok re =>
    obtain ⟨groups, hfinish⟩ := exists_finish_of_compile hre
    have huniform := ParseState.isUniform_start (Flags.ofString flags)
    exact balanced_of_closes
      (ParseState.closes_of_finish hfinish huniform (isClear_of_list hclear))

theorem balanced_of_isValid_quantified :
    isValid "(a\x7b2\x7d|\\(\\x41)?" "" = true ∧
      ((∀ token lazy, .quantifier token lazy ∈ Token.list "(a\x7b2\x7d|\\(\\x41)?".toList →
        token.any isStructural = false) ∧ hexComplete "(a\x7b2\x7d|\\(\\x41)?".toList = true) ∧
      Balanced {} (Token.list "(a\x7b2\x7d|\\(\\x41)?".toList) := by
  have hvalid : isValid "(a\x7b2\x7d|\\(\\x41)?" "" = true := by decide +kernel
  have hlist : Token.list "(a\x7b2\x7d|\\(\\x41)?".toList =
      [.opener .capture, .literal ['a'], .quantifier ['\x7b', '2', '\x7d'] false, .bar,
        .escape (some '('), .escape (some 'x'), .literal ['4', '1'], .close,
        .quantifier ['?'] false] := by decide +kernel
  have hbraces : ∀ token lazy, .quantifier token lazy ∈ Token.list "(a\x7b2\x7d|\\(\\x41)?".toList →
      token.any isStructural = false := by
    rw [hlist]
    intro token lazy h
    simp only [List.mem_cons, List.not_mem_nil, reduceCtorEq, false_or, or_false,
      Token.quantifier.injEq] at h
    rcases h with ⟨rfl, -⟩ | ⟨rfl, -⟩ <;> decide
  have hhex : hexComplete "(a\x7b2\x7d|\\(\\x41)?".toList = true := by decide
  exact ⟨hvalid, ⟨hbraces, hhex⟩, balanced_of_isValid hvalid (.inr ⟨hbraces, hhex⟩)⟩

/-- A brace that stands for itself hides the end of the group. -/
example : isValid "(\x7b)" "" = true ∧ skeleton "(\x7b)".toList = [.opening, .braces] := by
  decide +kernel

end PatternProse
