import PatternProse.Explain

/-!
# Literals with slashes

A literal is cut at its first and at its last slash. As flags have no slashes of their own, the
pattern comes back whole whatever slashes are in it, and so does the explanation of a pattern from
the literal that it is written as.

## Main statements

* `PatternInput.cutAtLastSlash?_eq_some_iff` — where a text is cut.
* `PatternInput.ofText_literal`, `PatternInput.ofText_bare` — what is read from a text.
* `explainInput_literal` — a pattern is explained from its literal as it is by itself.
* `literal_round_trip` — all of this together.
-/

namespace PatternProse

namespace PatternInput

theorem cutAtLastSlash?_eq_none_iff {cs : List Char} :
    cutAtLastSlash? cs = none ↔ '/' ∉ cs := by
  fun_induction cutAtLastSlash? cs with
  | case1 => simp
  | case2 c cs before after h ih => simp_all
  | case3 c cs h hc => simp_all
  | case4 c cs h hc ih =>
    have hne : '/' ≠ c := by
      rintro rfl
      exact hc (beq_self_eq_true '/')
    simp [hne, ih.1 h]

theorem cutAtLastSlash?_append {after : List Char} (h : '/' ∉ after) (before : List Char) :
    cutAtLastSlash? (before ++ '/' :: after) = some (before, after) := by
  induction before with
  | nil => simp [cutAtLastSlash?, cutAtLastSlash?_eq_none_iff.2 h]
  | cons c before ih => simp [cutAtLastSlash?, ih]

/-- A text is cut at the slash that no other one follows. -/
theorem cutAtLastSlash?_eq_some_iff {cs before after : List Char} :
    cutAtLastSlash? cs = some (before, after) ↔ cs = before ++ '/' :: after ∧ '/' ∉ after := by
  constructor
  · intro h
    fun_induction cutAtLastSlash? cs generalizing before with
    | case1 => cases h
    | case2 c cs before' after' hcut ih =>
      cases h
      obtain ⟨rfl, hafter⟩ := ih hcut
      exact ⟨rfl, hafter⟩
    | case3 c cs hcut hc =>
      cases h
      exact ⟨by simpa using hc, cutAtLastSlash?_eq_none_iff.1 hcut⟩
    | case4 => cases h
  · rintro ⟨rfl, hafter⟩
    exact cutAtLastSlash?_append hafter before

theorem toList_literal (pattern flags : String) :
    ("/" ++ pattern ++ "/" ++ flags).toList = '/' :: (pattern.toList ++ '/' :: flags.toList) := by
  simp

/-- A literal is read as its pattern and its flags, with all slashes but the last one in the
pattern. -/
theorem ofText_literal {flags : String} (h : '/' ∉ flags.toList) (pattern separateFlags : String) :
    ofText ("/" ++ pattern ++ "/" ++ flags) separateFlags = ⟨pattern, flags⟩ := by
  simp only [ofText, toList_literal, cutAtLastSlash?_append h, String.ofList_toList]

/-- A text that is no literal is a pattern as it stands. -/
theorem ofText_bare {text : String} (h : text.toList.head? ≠ some '/' ∨ '/' ∉ text.toList.tail)
    (separateFlags : String) : ofText text separateFlags = ⟨text, separateFlags⟩ := by
  unfold ofText
  dsimp only
  split
  · next rest hrest =>
    rw [hrest] at h
    have hslash : '/' ∉ rest := by simpa using h
    rw [cutAtLastSlash?_eq_none_iff.2 hslash]
  · rfl

/-- A text that starts with a slash and has another one is a literal. -/
theorem exists_literal {text : String} (hhead : text.toList.head? = some '/')
    (htail : '/' ∈ text.toList.tail) :
    ∃ pattern flags, '/' ∉ flags.toList ∧ "/" ++ pattern ++ "/" ++ flags = text := by
  obtain ⟨rest, hrest⟩ := List.head?_eq_some_iff.1 hhead
  rw [hrest] at htail
  cases hcut : cutAtLastSlash? rest with
  | none => exact absurd htail (cutAtLastSlash?_eq_none_iff.1 hcut)
  | some parts =>
    obtain ⟨pattern, flags⟩ := parts
    obtain ⟨rfl, hflags⟩ := cutAtLastSlash?_eq_some_iff.1 hcut
    refine ⟨String.ofList pattern, String.ofList flags, by simpa using hflags, ?_⟩
    rw [← String.toList_inj, toList_literal, hrest, String.toList_ofList, String.toList_ofList]

end PatternInput

open PatternInput

/-- What the explanation of a pattern says that it explains. The flags of an empty pattern are
left out. -/
theorem explain_cases {pattern flags : String} {e : Explanation}
    (h : explain pattern flags = .ok e) :
    pattern = "" ∧ e = {} ∨ e.pattern = pattern ∧ e.flags = flags := by
  unfold explain at h
  split at h
  · next hempty =>
    cases h
    exact .inl ⟨by simpa using hempty, rfl⟩
  · split at h
    · cases h
      exact .inr ⟨rfl, rfl⟩
    · cases h

/-- A pattern is explained from its literal as it is by itself. -/
theorem explainInput_literal {pattern flags : String} {e : Explanation}
    (hflags : '/' ∉ flags.toList) (h : explain pattern flags = .ok e) (separateFlags : String) :
    explainInput e.literal separateFlags = .ok e := by
  obtain ⟨rfl, rfl⟩ | ⟨hpattern, he⟩ := explain_cases h
  · have hinput : ofText (Explanation.literal {}) separateFlags = ⟨"", ""⟩ :=
      ofText_literal (by simp) "" separateFlags
    rw [explainInput, hinput]
    rfl
  · rw [explainInput, Explanation.literal, hpattern, he, ofText_literal hflags]
    exact h

/-- Reading a literal gives back the pattern and the flags that it is put together from, and the
explanation of the pattern. A text that is not put together in this way is a bare pattern. -/
theorem literal_round_trip (separateFlags : String) :
    (∀ pattern flags : String, '/' ∉ flags.toList →
      ofText ("/" ++ pattern ++ "/" ++ flags) separateFlags = ⟨pattern, flags⟩ ∧
        ∀ e, explain pattern flags = .ok e → explainInput e.literal separateFlags = .ok e) ∧
    ∀ text : String,
      (text.toList.head? ≠ some '/' ∨ '/' ∉ text.toList.tail) ∧
          ofText text separateFlags = ⟨text, separateFlags⟩ ∨
        ∃ pattern flags, '/' ∉ flags.toList ∧ "/" ++ pattern ++ "/" ++ flags = text ∧
          ofText text separateFlags = ⟨pattern, flags⟩ := by
  refine ⟨fun pattern flags hflags => ?_, fun text => ?_⟩
  · exact ⟨ofText_literal hflags pattern separateFlags,
      fun e he => explainInput_literal hflags he separateFlags⟩
  · by_cases h : text.toList.head? = some '/' ∧ '/' ∈ text.toList.tail
    · obtain ⟨pattern, flags, hflags, rfl⟩ := exists_literal h.1 h.2
      exact .inr ⟨pattern, flags, hflags, rfl, ofText_literal hflags pattern separateFlags⟩
    · have hbare := Decidable.not_and_iff_not_or_not.1 h
      exact .inl ⟨hbare, ofText_bare hbare separateFlags⟩

theorem literal_round_trip_slashes :
    '/' ∉ "gi".toList ∧ explain "a/(/)/" "gi" =
        .ok ⟨"a/(/)/", "gi", explainPattern "a/(/)/", explainFlags "gi"⟩ ∧
      ofText "/a/(/)//gi" "m" = ⟨"a/(/)/", "gi"⟩ ∧
      explainInput "/a/(/)//gi" "m" =
        .ok ⟨"a/(/)/", "gi", explainPattern "a/(/)/", explainFlags "gi"⟩ := by
  have hflags : '/' ∉ "gi".toList := by decide
  have hexplain : explain "a/(/)/" "gi" =
      .ok ⟨"a/(/)/", "gi", explainPattern "a/(/)/", explainFlags "gi"⟩ := by
    have hvalid : isValid "a/(/)/" "gi" = true := by decide +kernel
    obtain ⟨re, hre⟩ := isValid_iff.1 hvalid
    rw [explain, validate, hre]
    rfl
  have h := (literal_round_trip "m").1 "a/(/)/" "gi" hflags
  exact ⟨hflags, hexplain, h.1, h.2 _ hexplain⟩

end PatternProse
