import PatternProse.Match
import PatternProse.Proofs.Span

/-!
# Matches in bytes

A search counts positions in characters and reports them in bytes. A position that is given by the
characters before it has as many bytes before it as these take.

## Main statements

* `Subject.offset_ofString` — the byte offset of a position.
* `Subject.slice_ofString` — the text between two positions.
* `Subject.slice?_offset` — the span between two positions covers the text between them.
-/

namespace PatternProse

theorem getElem?_byteOffsets (offset : Nat) (before after : List Char) :
    (byteOffsets offset (before ++ after))[before.length]? = some (offset + utf8Length before) := by
  induction before generalizing offset with
  | nil => cases after <;> simp [byteOffsets]
  | cons c before ih => simp [byteOffsets, ih, Nat.add_assoc]

/-- The characters between two positions, with those before and behind them. -/
theorem exists_between {text : String} {i j : Nat} (hij : i ≤ j) (hj : j ≤ text.length) :
    ∃ before cs after, text.toList = before ++ (cs ++ after) ∧ before.length = i ∧
      before.length + cs.length = j := by
  rw [← String.length_toList] at hj
  refine ⟨text.toList.take i, (text.toList.drop i).take (j - i), text.toList.drop j, ?_, ?_, ?_⟩
  · have hdrop : text.toList.drop j = (text.toList.drop i).drop (j - i) := by
      simp [hij]
    rw [hdrop, List.take_append_drop, List.take_append_drop]
  · simp; omega
  · simp; omega

namespace Subject

variable {text : String} {before cs after : List Char}

/-- The position behind some characters has as many bytes before it as these take. -/
theorem offset_ofString (h : text.toList = before ++ after) :
    (ofString text).offset before.length = utf8Length before := by
  simp [ofString, offset, h, getElem?_byteOffsets]

theorem offset_ofString_add (h : text.toList = before ++ (cs ++ after)) :
    (ofString text).offset (before.length + cs.length) = utf8Length before + utf8Length cs := by
  rw [← List.length_append, ← utf8Length_append]
  exact offset_ofString (h.trans (List.append_assoc ..).symm)

/-- The text between two positions consists of the characters between them. -/
theorem slice_ofString (h : text.toList = before ++ (cs ++ after)) :
    (ofString text).slice before.length (before.length + cs.length) = String.ofList cs := by
  simp [ofString, slice, h]

theorem offset_zero (text : String) : (ofString text).offset 0 = 0 := by
  cases h : text.toList <;> simp [ofString, offset, byteOffsets, h]

section Between

variable {text : String} {i j : Nat}

theorem size_chars_ofString (text : String) : (ofString text).chars.size = text.length := by
  simp [ofString, String.length_toList]

/-- The text between two positions is what the span between their byte offsets covers. -/
theorem slice?_offset (hij : i ≤ j) (hj : j ≤ text.length) :
    (⟨(ofString text).offset i, (ofString text).offset j⟩ : Span).slice? text =
      some ((ofString text).slice i j) := by
  obtain ⟨before, cs, after, h, rfl, rfl⟩ := exists_between hij hj
  rw [offset_ofString h, offset_ofString_add h, slice_ofString h]
  exact Span.slice?_of_toList_eq h

theorem isValid_offset (hi : i ≤ text.length) :
    String.Pos.Raw.IsValid text ⟨(ofString text).offset i⟩ := by
  obtain ⟨before, cs, after, h, rfl, -⟩ := exists_between hi (Nat.le_refl _)
  rw [offset_ofString h]
  exact isValid_utf8Length h

theorem offset_le_utf8ByteSize (hi : i ≤ text.length) :
    (ofString text).offset i ≤ text.utf8ByteSize := by
  obtain ⟨before, cs, after, h, rfl, -⟩ := exists_between hi (Nat.le_refl _)
  rw [offset_ofString h, ← utf8Length_toList, h, utf8Length_append]
  exact Nat.le_add_right _ _

theorem offset_lt_offset (hij : i < j) (hj : j ≤ text.length) :
    (ofString text).offset i < (ofString text).offset j := by
  obtain ⟨before, cs, after, h, rfl, rfl⟩ := exists_between (Nat.le_of_lt hij) hj
  rw [offset_ofString h, offset_ofString_add h]
  have hcs : cs ≠ [] := by
    rintro rfl
    simp at hij
  have := utf8Length_pos hcs
  omega

theorem offset_le_offset (hij : i ≤ j) (hj : j ≤ text.length) :
    (ofString text).offset i ≤ (ofString text).offset j := by
  obtain hij | rfl := Nat.lt_or_eq_of_le hij
  · exact Nat.le_of_lt (offset_lt_offset hij hj)
  · exact Nat.le_refl _

theorem offset_inj (hi : i ≤ text.length) (hj : j ≤ text.length) :
    (ofString text).offset i = (ofString text).offset j ↔ i = j := by
  refine ⟨fun h => ?_, fun h => h ▸ rfl⟩
  obtain hlt | rfl | hlt := Nat.lt_trichotomy i j
  · exact absurd h (Nat.ne_of_lt (offset_lt_offset hlt hj))
  · rfl
  · exact absurd h.symm (Nat.ne_of_lt (offset_lt_offset hlt hi))

end Between

end Subject

/-- A match that covers some characters of a text and has no capture groups. -/
theorem Regex.Found.toMatch_ofString {text : String} {before cs after : List Char}
    (h : text.toList = before ++ (cs ++ after)) :
    (⟨before.length, before.length + cs.length, #[]⟩ : Found).toMatch (Subject.ofString text) =
      ⟨⟨utf8Length before, utf8Length before + utf8Length cs⟩, String.ofList cs, []⟩ := by
  rw [Found.toMatch, Subject.offset_ofString h, Subject.offset_ofString_add h,
    Subject.slice_ofString h]
  rfl

end PatternProse
