import PatternProse.Span

/-!
# Spans between characters

A span whose ends lie between characters covers the characters from one end to the other. The
lemmas tie the counts of `utf8Length` to the bytes that a string is stored in.

## Main statements

* `Span.slice?_of_toList_eq` — the text of a span that starts and stops between characters.
* `isValid_utf8Length` — the bytes of a prefix end between characters.
* `getElem_toByteArray_of_toList_eq` — the byte of a character that takes only one.
-/

namespace PatternProse

theorem utf8Length_eq_size_utf8Encode (cs : List Char) : utf8Length cs = cs.utf8Encode.size := by
  induction cs with
  | nil => rfl
  | cons c cs ih =>
    rw [List.utf8Encode_cons, ByteArray.size_append, ← ih, List.utf8Encode_singleton]
    simp

/-- The characters of a string take as many bytes as the string. -/
@[simp] theorem utf8Length_toList (s : String) : utf8Length s.toList = s.utf8ByteSize := by
  rw [utf8Length_eq_size_utf8Encode, String.utf8Encode_toList, String.size_toByteArray]

theorem utf8Length_pos {cs : List Char} (h : cs ≠ []) : 0 < utf8Length cs := by
  cases cs with
  | nil => exact absurd rfl h
  | cons c cs =>
    have := c.utf8Size_pos
    simp only [utf8Length_cons]
    omega

theorem dropBytes?_utf8Size_add (c : Char) (n : Nat) (cs : List Char) :
    dropBytes? (c.utf8Size + n) (c :: cs) = dropBytes? n cs := by
  obtain ⟨m, hm⟩ : ∃ m, c.utf8Size + n = m + 1 :=
    Nat.exists_eq_add_one.2 (Nat.add_pos_left c.utf8Size_pos n)
  have hn : m + 1 - c.utf8Size = n := by omega
  rw [hm, dropBytes?, if_pos (by omega), hn]

theorem takeBytes?_utf8Size_add (c : Char) (n : Nat) (cs : List Char) :
    takeBytes? (c.utf8Size + n) (c :: cs) = (takeBytes? n cs).map (c :: ·) := by
  obtain ⟨m, hm⟩ : ∃ m, c.utf8Size + n = m + 1 :=
    Nat.exists_eq_add_one.2 (Nat.add_pos_left c.utf8Size_pos n)
  have hn : m + 1 - c.utf8Size = n := by omega
  rw [hm, takeBytes?, if_pos (by omega), hn]

theorem dropBytes?_utf8Length_append (xs ys : List Char) :
    dropBytes? (utf8Length xs) (xs ++ ys) = some ys := by
  induction xs with
  | nil => simp [dropBytes?]
  | cons c cs ih => rw [utf8Length_cons, List.cons_append, dropBytes?_utf8Size_add, ih]

theorem takeBytes?_utf8Length_append (xs ys : List Char) :
    takeBytes? (utf8Length xs) (xs ++ ys) = some xs := by
  induction xs with
  | nil => simp [takeBytes?]
  | cons c cs ih =>
    rw [utf8Length_cons, List.cons_append, takeBytes?_utf8Size_add, ih]
    rfl

/-- A span that starts after some characters of a source and goes on for some more covers just
these. -/
theorem Span.slice?_of_toList_eq {source : String} {before text after : List Char}
    (h : source.toList = before ++ (text ++ after)) :
    (⟨utf8Length before, utf8Length before + utf8Length text⟩ : Span).slice? source =
      some (String.ofList text) := by
  simp only [Span.slice?, if_pos (Nat.le_add_right _ _), h, dropBytes?_utf8Length_append,
    Nat.add_sub_cancel_left, takeBytes?_utf8Length_append, Option.bind_eq_bind,
    Option.bind_some]
  rfl

/-- The bytes of a prefix of a string end between two of its characters. -/
theorem isValid_utf8Length {source : String} {before after : List Char}
    (h : source.toList = before ++ after) :
    String.Pos.Raw.IsValid source ⟨utf8Length before⟩ := by
  refine String.Pos.Raw.isValid_iff_exists_append.2
    ⟨String.ofList before, String.ofList after, ?_, ?_⟩
  · rw [← String.ofList_append, ← h, String.ofList_toList]
  · rw [String.Pos.Raw.ext_iff, String.byteIdx_rawEndPos, ← utf8Length_toList,
      String.toList_ofList]

/-- A character of one byte stands at its offset in the bytes of a string. -/
theorem getElem_toByteArray_of_toList_eq {source : String} {c : Char} {before after : List Char}
    (h : source.toList = before ++ c :: after) (hc : c.utf8Size = 1)
    (hi : utf8Length before < source.toByteArray.size) :
    source.toByteArray[utf8Length before] = c.toUInt8 := by
  have hbytes : source.toByteArray =
      before.utf8Encode ++ ([c.val.toUInt8].toByteArray ++ after.utf8Encode) := by
    rw [← String.utf8Encode_toList, h, List.utf8Encode_append, List.utf8Encode_cons,
      List.utf8Encode_singleton, String.utf8EncodeChar_eq_singleton hc]
  have hsize : before.utf8Encode.size = utf8Length before := (utf8Length_eq_size_utf8Encode _).symm
  simp only [hbytes]
  rw [ByteArray.getElem_append_right (by omega), ByteArray.getElem_append_left (by simp [hsize])]
  simp [hsize, List.getElem_toByteArray]

end PatternProse
