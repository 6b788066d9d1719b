import PatternProse.Proofs.Scan.Layout

/-!
# Fragments cover a pattern

Whether or not a pattern is a valid one, its fragments account for each of its bytes once, but for
those of closing parentheses, which become no fragment.

## Main definitions

* `Coverage` — fragments that account for a source in this way.

The main statement is `coverage_explainPattern`.
-/

namespace PatternProse

/-- The fragments account for each byte of the source once: it belongs to just one of them, or
it is a closing parenthesis. -/
structure Coverage (source : String) (fragments : List Fragment) : Prop where
  nonempty : ∀ f ∈ fragments, f.span.start < f.span.stop
  inBounds : ∀ f ∈ fragments, f.span.stop ≤ source.utf8ByteSize
  /-- The spans start and stop between two characters. -/
  aligned : ∀ f ∈ fragments, String.Pos.Raw.IsValid source ⟨f.span.start⟩ ∧
    String.Pos.Raw.IsValid source ⟨f.span.stop⟩
  /-- The spans are in order and do not overlap. -/
  ordered : fragments.Pairwise fun f g =>
    f.span.start < g.span.start ∧ f.span.stop ≤ g.span.start
  sourceText : ∀ f ∈ fragments, f.span.slice? source = some f.sourceText
  uncovered : ∀ (i : Nat) (h : i < source.toByteArray.size),
    (∀ f ∈ fragments, ¬ (f.span.start ≤ i ∧ i < f.span.stop)) →
      source.toByteArray[i] = ')'.toUInt8

/-- The fragments of any pattern account for it. -/
theorem coverage_explainPattern (pattern : String) :
    Coverage pattern (explainPattern pattern) := by
  have layout := layout_explainPattern pattern
  have split : ∀ f ∈ explainPattern pattern, ∃ before text after,
      pattern.toList = before ++ (text ++ after) ∧ text ≠ [] ∧
        f.sourceText = String.ofList text ∧
        f.span = ⟨utf8Length before, utf8Length before + utf8Length text⟩ := by
    simpa using layout.exists_split
  refine ⟨?nonempty, ?inBounds, ?aligned, layout.pairwise, ?sourceText, ?uncovered⟩
  case nonempty =>
    intro f hf
    obtain ⟨before, text, after, -, htext, -, hspan⟩ := split f hf
    have := utf8Length_pos htext
    simp only [hspan]
    omega
  case inBounds =>
    intro f hf
    obtain ⟨before, text, after, hpattern, -, -, hspan⟩ := split f hf
    have hsize := utf8Length_toList pattern
    simp only [hpattern, utf8Length_append] at hsize
    simp only [hspan]
    omega
  case aligned =>
    intro f hf
    obtain ⟨before, text, after, hpattern, -, -, hspan⟩ := split f hf
    have hstop : pattern.toList = (before ++ text) ++ after := by
      rw [hpattern, List.append_assoc]
    rw [hspan, ← utf8Length_append]
    exact ⟨isValid_utf8Length hpattern, isValid_utf8Length hstop⟩
  case sourceText =>
    intro f hf
    obtain ⟨before, text, after, hpattern, -, hsource, hspan⟩ := split f hf
    rw [hspan, hsource]
    exact Span.slice?_of_toList_eq hpattern
  case uncovered =>
    intro i h hi
    have hsize : i < 0 + utf8Length pattern.toList := by
      simpa [String.size_toByteArray] using h
    obtain ⟨before, after, hpattern, rfl⟩ :=
      layout.exists_close_of_uncovered (Nat.zero_le i) hsize hi
    simp only [Nat.zero_add]
    exact getElem_toByteArray_of_toList_eq hpattern utf8Size_closingParenthesis _

end PatternProse
