import PatternProse.Json.Scalar

/-!
# Lexemes

Which texts are strings and numbers is told by a grammar. A lexeme is read as one value wherever
it stands and whatever follows it, by the readers that take it in, unless it stands for none, and
by those that skip it in any case.

## Main definitions

* `Json.StringText` — what may stand between the quotes of a string.
* `Json.Spells` — the texts that spell some characters.
* `Json.NumberText` — the texts that are numbers.

The main statements are `Json.StringText.valueOf_takeString`, `Json.Spells.exists_string` and
`Json.NumberText.valueOf_takeNumber`.
-/

namespace PatternProse.Json

open Hexadecimal (digitValue?)

/-! ## Strings -/

/-- Four hexadecimal digits, and the number that they stand for. -/
inductive HexText : List Char → Nat → Prop
  | mk {a b c d : Char} {i j k l : Nat} : digitValue? a = some i → digitValue? b = some j →
    digitValue? c = some k → digitValue? d = some l →
    HexText [a, b, c, d] (4096 * i + 256 * j + 16 * k + l)

/-- What may stand between the quotes of a string. -/
inductive StringText : List Char → Prop
  | nil : StringText []
  | plain {c : Char} {cs : List Char} : ¬c.toNat < 0x20 → c ≠ '"' → c ≠ '\\' →
    StringText cs → StringText (c :: cs)
  | short {letter e : Char} {cs : List Char} : shortEscape? letter = some e →
    StringText cs → StringText ('\\' :: letter :: cs)
  | number {digits cs : List Char} {n : Nat} : HexText digits n →
    StringText cs → StringText ('\\' :: 'u' :: (digits ++ cs))

/-- The ways in which a character is written. -/
inductive Escaping (c : Char) : List Char → Prop
  /-- The character itself. -/
  | plain (h : ¬c.toNat < 0x20) (hquote : c ≠ '"') (hbackslash : c ≠ '\\') : Escaping c [c]
  /-- A backslash and a letter. -/
  | short {letter : Char} (h : shortEscape? letter = some c) : Escaping c ['\\', letter]
  /-- A backslash and the number of the character. -/
  | number {digits : List Char} (h : HexText digits c.toNat) : Escaping c ('\\' :: 'u' :: digits)
  /-- Two numbers that are the halves of a surrogate pair. -/
  | pair {digits digits' : List Char} {high low : Nat} (hdigits : HexText digits high)
    (hdigits' : HexText digits' low) (hhigh : isHighSurrogate high = true)
    (hlow : isLowSurrogate low = true)
    (h : Char.ofNat (0x10000 + (high - 0xD800) * 0x400 + (low - 0xDC00)) = c) :
    Escaping c ('\\' :: 'u' :: (digits ++ '\\' :: 'u' :: digits'))

/-- The texts that spell some characters between the quotes of a string. -/
inductive Spells : (text cs : List Char) → Prop
  | nil : Spells [] []
  | cons {c : Char} {own text cs : List Char} : Escaping c own → Spells text cs →
    Spells (own ++ text) (c :: cs)

/-- What spells characters may stand between quotes. -/
theorem Spells.stringText {text cs : List Char} (h : Spells text cs) : StringText text := by
  induction h with
  | nil => exact .nil
  | cons hown _ ih =>
    cases hown with
    | plain h hquote hbackslash => exact .plain h hquote hbackslash ih
    | short h => exact .short h ih
    | number h => exact .number h ih
    | pair hdigits hdigits' =>
      simp only [List.cons_append, List.append_assoc]
      exact .number hdigits (.number hdigits' ih)

/-! ### Readers of strings -/

theorem takeString_plain {c : Char} (h : ¬c.toNat < 0x20) (hquote : c ≠ '"')
    (hbackslash : c ≠ '\\') (offset : Nat) (cs : List Char) :
    takeString offset (c :: cs) =
      (takeString (offset + c.utf8Size) cs).map fun r => { r with value := c :: r.value } := by
  rw [takeString, if_neg h]
  · cases takeString (offset + c.utf8Size) cs <;> rfl
  · exact hquote
  · exact hbackslash

theorem takeString_escape {offset : Nat} {cs : List Char} {e : Reading Char}
    (h : takeEscape (offset + 1) cs = .ok e) :
    takeString offset ('\\' :: cs) =
      (takeString e.offset e.rest).map fun r => { r with value := e.value :: r.value } := by
  rw [takeString]
  split
  · next e' he =>
    obtain rfl : e = e' := Except.ok.inj (h.symm.trans he)
    cases takeString e.offset e.rest <;> rfl
  · next he => rw [h] at he; cases he

theorem skipString_plain {c : Char} (h : ¬c.toNat < 0x20) (hquote : c ≠ '"')
    (hbackslash : c ≠ '\\') (offset : Nat) (cs : List Char) :
    skipString offset (c :: cs) = skipString (offset + c.utf8Size) cs := by
  rw [skipString, if_neg h]
  · exact hquote
  · exact hbackslash

theorem skipString_escape {offset : Nat} {cs : List Char} {e : Reading Unit}
    (h : skipEscape (offset + 1) cs = .ok e) :
    skipString offset ('\\' :: cs) = skipString e.offset e.rest := by
  rw [skipString]
  split
  · next e' he =>
    obtain rfl : e = e' := Except.ok.inj (h.symm.trans he)
    rfl
  · next he => rw [h] at he; cases he

theorem takeString_error {offset : Nat} {cs : List Char} {p : Problem SyntaxProblem}
    (h : takeEscape (offset + 1) cs = .error p) : takeString offset ('\\' :: cs) = .error p := by
  rw [takeString]
  split
  · next he => rw [h] at he; cases he
  · next he => rw [h] at he; cases he; rfl

theorem HexText.hexQuad_eq {digits : List Char} {n : Nat} (h : HexText digits n) (offset : Nat)
    (rest : List Char) : hexQuad offset (digits ++ rest) = .ok ⟨n, offset + 4, rest⟩ := by
  cases h with
  | mk ha hb hc hd =>
    simp only [List.cons_append, List.nil_append, hexQuad, ha, hb, hc, hd]

theorem skipString_number {digits : List Char} {n : Nat} (h : HexText digits n) (offset : Nat)
    (rest : List Char) :
    skipString offset ('\\' :: 'u' :: (digits ++ rest)) =
      skipString (offset + 1 + 1 + 4) rest := by
  have hskip : skipEscape (offset + 1) ('u' :: (digits ++ rest)) =
      .ok ⟨(), offset + 1 + 1 + 4, rest⟩ := by
    simp [skipEscape, h.hexQuad_eq]
  exact skipString_escape hskip

theorem ne_of_shortEscape? {letter e : Char} (h : shortEscape? letter = some e) :
    letter ≠ 'u' := by
  rintro rfl
  cases h

/-- A string is skipped up to its closing quote. -/
theorem StringText.exists_skipString {text : List Char} (h : StringText text) (offset : Nat)
    (rest : List Char) :
    ∃ stop, skipString offset (text ++ '"' :: rest) = .ok ⟨(), stop, rest⟩ := by
  induction h generalizing offset with
  | nil => exact ⟨offset + 1, skipString.eq_2 offset rest⟩
  | @plain c cs hcontrol hquote hbackslash _ ih =>
    rw [List.cons_append, skipString_plain hcontrol hquote hbackslash]
    exact ih _
  | @short letter e cs hletter _ ih =>
    have hskip : skipEscape (offset + 1) (letter :: (cs ++ '"' :: rest)) =
        .ok ⟨(), offset + 1 + 1, cs ++ '"' :: rest⟩ := by
      simp only [skipEscape, beq_iff_eq, if_neg (ne_of_shortEscape? hletter), hletter]
    rw [List.cons_append, List.cons_append, skipString_escape hskip]
    exact ih _
  | @number digits cs n hdigits _ ih =>
    rw [List.cons_append, List.cons_append, List.append_assoc, skipString_number hdigits]
    exact ih _

/-- Whether the second half of a surrogate pair follows within a string does not depend on where
the string stands. -/
theorem StringText.lowSurrogate_cases {text : List Char} (h : StringText text) :
    (∀ offset rest, ∃ p, lowSurrogate offset (text ++ '"' :: rest) = .error p) ∨
      ∃ n text', StringText text' ∧ text'.length ≤ text.length ∧ ∀ offset rest, ∃ stop,
        lowSurrogate offset (text ++ '"' :: rest) = .ok ⟨n, stop, text' ++ '"' :: rest⟩ := by
  cases h with
  | nil => exact .inl fun offset rest => ⟨_, rfl⟩
  | plain _ _ hbackslash =>
    refine .inl fun offset rest => ?_
    unfold lowSurrogate
    split <;> simp_all [fail]
  | short hletter =>
    refine .inl fun offset rest => ?_
    have := ne_of_shortEscape? hletter
    unfold lowSurrogate
    split <;> simp_all [fail]
  | @number digits cs n hdigits hcs =>
    have hquad (offset : Nat) (rest : List Char) :=
      hdigits.hexQuad_eq (offset + 2) (cs ++ '"' :: rest)
    by_cases hlow : isLowSurrogate n = true
    · refine .inr ⟨n, cs, hcs, by simp; omega, fun offset rest => ⟨offset + 2 + 4, ?_⟩⟩
      simp [lowSurrogate, hquad, hlow]
    · refine .inl fun offset rest => ⟨⟨.loneSurrogate, offset + 2 + 4⟩, ?_⟩
      simp [lowSurrogate, hquad, hlow, fail]

/-- Four digits in a string either stand for a character, perhaps with what follows them, or for
none, wherever the string stands. -/
theorem HexText.unicodeEscape_cases {digits text : List Char} {n : Nat} (h : HexText digits n)
    (htext : StringText text) :
    (∀ offset rest, ∃ p, unicodeEscape offset (digits ++ (text ++ '"' :: rest)) = .error p) ∨
      ∃ c text', StringText text' ∧ text'.length ≤ text.length ∧ ∀ offset rest, ∃ stop,
        unicodeEscape offset (digits ++ (text ++ '"' :: rest)) =
          .ok ⟨c, stop, text' ++ '"' :: rest⟩ := by
  simp only [unicodeEscape, h.hexQuad_eq]
  split
  · exact .inl fun offset rest => ⟨_, rfl⟩
  split
  · obtain hnone | ⟨low, text', htext', hlength, hlow⟩ := htext.lowSurrogate_cases
    · refine .inl fun offset rest => ?_
      obtain ⟨p, hp⟩ := hnone (offset + 4) rest
      exact ⟨p, by rw [hp]⟩
    · refine .inr ⟨Char.ofNat (0x10000 + (n - 0xD800) * 0x400 + (low - 0xDC00)), text', htext',
        hlength, fun offset rest => ?_⟩
      obtain ⟨stop, hstop⟩ := hlow (offset + 4) rest
      exact ⟨stop, by rw [hstop]⟩
  · exact .inr ⟨_, text, htext, Nat.le_refl _, fun offset rest => ⟨_, rfl⟩⟩

/-- What has been read, if there is no problem. -/
def valueOf {α : Type} (r : Read α) : Option α := r.toOption.map Reading.value

theorem valueOf_map {α β : Type} (r : Read α) (f : α → β) :
    valueOf (r.map fun r => { r with value := f r.value }) = (valueOf r).map f := by
  cases r <;> rfl

/-- The characters of a string do not depend on where it stands. -/
theorem StringText.valueOf_takeString {text : List Char} (h : StringText text)
    (offset offset' : Nat) (rest rest' : List Char) :
    valueOf (takeString offset (text ++ '"' :: rest)) =
      valueOf (takeString offset' (text ++ '"' :: rest')) := by
  -- a pair of escapes is read at once, so the induction is on how many characters there are
  induction hlength : text.length using Nat.strongRecOn generalizing text offset offset' with
  | _ n ih =>
    cases h with
    | nil => simp [takeString, valueOf, Except.toOption]
    | @plain c cs hcontrol hquote hbackslash hcs =>
      simp only [List.cons_append, takeString_plain hcontrol hquote hbackslash, valueOf_map]
      rw [ih cs.length (by simp at hlength; omega) hcs _ _ rfl]
    | @short letter e cs hletter hcs =>
      have htake (offset : Nat) (rest : List Char) :
          takeEscape (offset + 1) (letter :: (cs ++ '"' :: rest)) =
            .ok ⟨e, offset + 1 + 1, cs ++ '"' :: rest⟩ := by
        simp only [takeEscape, beq_iff_eq, if_neg (ne_of_shortEscape? hletter), hletter]
      simp only [List.cons_append, takeString_escape (htake _ _), valueOf_map]
      rw [ih cs.length (by simp at hlength; omega) hcs _ _ rfl]
    | @number digits cs n hdigits hcs =>
      have htake (offset : Nat) (rest : List Char) :
          takeEscape (offset + 1) ('u' :: (digits ++ (cs ++ '"' :: rest))) =
            unicodeEscape (offset + 1 + 1) (digits ++ (cs ++ '"' :: rest)) := by
        simp [takeEscape]
      simp only [List.cons_append, List.append_assoc]
      obtain hnone | ⟨c, text', htext', hle, hread⟩ := hdigits.unicodeEscape_cases hcs
      · have hfail (offset : Nat) (rest : List Char) :
            valueOf (takeString offset ('\\' :: 'u' :: (digits ++ (cs ++ '"' :: rest)))) = none := by
          obtain ⟨p, hp⟩ := hnone (offset + 1 + 1) rest
          rw [takeString_error ((htake offset rest).trans hp)]
          rfl
        rw [hfail, hfail]
      · obtain ⟨stop, hstop⟩ := hread (offset + 1 + 1) rest
        obtain ⟨stop', hstop'⟩ := hread (offset' + 1 + 1) rest'
        rw [takeString_escape ((htake _ _).trans hstop),
          takeString_escape ((htake _ _).trans hstop'), valueOf_map, valueOf_map,
          ih text'.length (by simp at hlength; omega) htext' _ _ rfl]

/-- A character is no half of a surrogate pair. -/
theorem not_isSurrogate (c : Char) :
    isLowSurrogate c.toNat = false ∧ isHighSurrogate c.toNat = false := by
  have hvalid : c.toNat < 0xD800 ∨ 0xDFFF < c.toNat ∧ c.toNat < 0x110000 := c.valid
  simp only [isLowSurrogate, isHighSurrogate, Bool.and_eq_false_iff, decide_eq_false_iff_not]
  omega

/-- A character is read back from a text that it is written as. -/
theorem Escaping.exists_string {c : Char} {text : List Char} (h : Escaping c text) (offset : Nat)
    (rest : List Char) :
    ∃ stop,
      takeString offset (text ++ rest) =
        (takeString stop rest).map (fun r => { r with value := c :: r.value }) ∧
      skipString offset (text ++ rest) = skipString stop rest := by
  cases h with
  | plain h hquote hbackslash =>
    exact ⟨offset + c.utf8Size, takeString_plain h hquote hbackslash offset rest,
      skipString_plain h hquote hbackslash offset rest⟩
  | @short letter h =>
    have hletter := ne_of_shortEscape? h
    have htake : takeEscape (offset + 1) (letter :: rest) = .ok ⟨c, offset + 1 + 1, rest⟩ := by
      simp only [takeEscape, beq_iff_eq, if_neg hletter, h]
    have hskip : skipEscape (offset + 1) (letter :: rest) = .ok ⟨(), offset + 1 + 1, rest⟩ := by
      simp only [skipEscape, beq_iff_eq, if_neg hletter, h]
    exact ⟨offset + 1 + 1, takeString_escape htake, skipString_escape hskip⟩
  | @number digits h =>
    obtain ⟨hlow, hhigh⟩ := not_isSurrogate c
    have htake : takeEscape (offset + 1) ('u' :: (digits ++ rest)) =
        .ok ⟨c, offset + 1 + 1 + 4, rest⟩ := by
      simp [takeEscape, unicodeEscape, h.hexQuad_eq, hlow, hhigh, Char.ofNat_toNat]
    exact ⟨offset + 1 + 1 + 4, takeString_escape htake, skipString_number h offset rest⟩
  | @pair digits digits' high low hdigits hdigits' hhigh hlow h =>
    have hnot : isLowSurrogate high = false := by
      simp only [isHighSurrogate, isLowSurrogate, Bool.and_eq_true, Bool.and_eq_false_iff,
        decide_eq_true_eq, decide_eq_false_iff_not] at hhigh ⊢
      omega
    have htake : takeEscape (offset + 1) ('u' :: (digits ++ '\\' :: 'u' :: (digits' ++ rest))) =
        .ok ⟨c, offset + 1 + 1 + 4 + 2 + 4, rest⟩ := by
      simp [takeEscape, unicodeEscape, hdigits.hexQuad_eq, hnot, hhigh, lowSurrogate,
        hdigits'.hexQuad_eq, hlow, h]
    refine ⟨offset + 1 + 1 + 4 + 2 + 4, ?_, ?_⟩
    · simp only [List.cons_append, List.append_assoc]
      exact takeString_escape htake
    · simp only [List.cons_append, List.append_assoc]
      exact (skipString_number hdigits offset _).trans (skipString_number hdigits' _ rest)

/-- Characters are read back from a text that spells them. -/
theorem Spells.exists_string {text cs : List Char} (h : Spells text cs) (offset : Nat)
    (rest : List Char) :
    ∃ stop, takeString offset (text ++ '"' :: rest) = .ok ⟨cs, stop, rest⟩ ∧
      skipString offset (text ++ '"' :: rest) = .ok ⟨(), stop, rest⟩ := by
  induction h generalizing offset with
  | nil => exact ⟨offset + 1, takeString.eq_2 offset rest, skipString.eq_2 offset rest⟩
  | @cons c own text cs hown _ ih =>
    obtain ⟨next, htake, hskip⟩ := hown.exists_string offset (text ++ '"' :: rest)
    obtain ⟨stop, htake', hskip'⟩ := ih next
    rw [List.append_assoc, htake, hskip, htake', hskip']
    exact ⟨stop, rfl, rfl⟩

/-! ## Numbers -/

/-- Whether a number may end before the text. -/
def endsNumber : List Char → Bool
  | [] => true
  | c :: _ => !c.isDigit && c != '.' && c != 'e' && c != 'E'

theorem skipExponent_of_endsNumber {rest : List Char} (h : endsNumber rest = true) (offset : Nat) :
    skipExponent offset rest = .ok ⟨(), offset, rest⟩ := by
  cases rest with
  | nil => rfl
  | cons c rest =>
    have hc : (c == 'e' || c == 'E') = false := by
      simp only [endsNumber, Bool.and_eq_true, bne_iff_ne] at h
      simp [h.1.2, h.2]
    simp only [skipExponent, hc, Bool.false_eq_true, if_false]

theorem isDigit_head?_of_endsNumber {rest : List Char} (h : endsNumber rest = true) :
    ∀ c ∈ rest.head?, c.isDigit = false := by
  cases rest with
  | nil => exact fun _ hc => nomatch hc
  | cons c rest =>
    simp only [endsNumber, Bool.and_eq_true, Bool.not_eq_true'] at h
    simpa using h.1.1.1

/-- The exponent that a number may end with. -/
inductive ExponentText : List Char → Prop
  | none : ExponentText []
  | some {letter : Char} {sign ds : List Char} : letter = 'e' ∨ letter = 'E' →
    sign = [] ∨ sign = ['+'] ∨ sign = ['-'] → ds ≠ [] → (∀ d ∈ ds, d.isDigit = true) →
    ExponentText (letter :: (sign ++ ds))

/-- The fraction that a number may have. -/
inductive FractionText : List Char → Prop
  | none : FractionText []
  | some {ds : List Char} : ds ≠ [] → (∀ d ∈ ds, d.isDigit = true) → FractionText ('.' :: ds)

/-- The text of a number: digits of which the first one is zero only if there are no others, a
minus sign before them or not, and after them a fraction and an exponent or not. -/
inductive NumberText : List Char → Prop
  | mk {sign ds fraction exponent : List Char} {d : Char} : sign = [] ∨ sign = ['-'] →
    (∀ c ∈ d :: ds, c.isDigit = true) → (d = '0' → ds = []) → FractionText fraction →
    ExponentText exponent → NumberText (sign ++ d :: (ds ++ (fraction ++ exponent)))

theorem skipSign_of_isDigit {d : Char} (h : d.isDigit = true) (offset : Nat) (cs : List Char) :
    skipSign offset (d :: cs) = (offset, d :: cs) := by
  unfold skipSign
  split
  · next heq => cases heq; cases h
  · next heq => cases heq; cases h
  · rfl

/-- Before digits there is at most a sign. -/
theorem exists_skipSign {sign : List Char} (h : sign = [] ∨ sign = ['+'] ∨ sign = ['-'])
    {d : Char} (hd : d.isDigit = true) (offset : Nat) (cs : List Char) :
    ∃ stop, skipSign offset (sign ++ d :: cs) = (stop, d :: cs) := by
  rcases h with rfl | rfl | rfl
  · exact ⟨offset, skipSign_of_isDigit hd offset cs⟩
  · exact ⟨offset + 1, rfl⟩
  · exact ⟨offset + 1, rfl⟩

theorem ExponentText.exists_skipExponent {text rest : List Char} (h : ExponentText text)
    (hrest : endsNumber rest = true) (offset : Nat) :
    ∃ stop, skipExponent offset (text ++ rest) = .ok ⟨(), stop, rest⟩ := by
  cases h with
  | none => exact ⟨offset, skipExponent_of_endsNumber hrest offset⟩
  | @some letter sign ds hletter hsign hne hds =>
    obtain ⟨d, ds, rfl⟩ := List.exists_cons_of_ne_nil hne
    have hd := hds d (.head _)
    obtain ⟨stop, hskip⟩ := exists_skipSign hsign hd (offset + 1) (ds ++ rest)
    obtain ⟨htake, hdrop⟩ := Decimal.span_append (fun c hc => hds c (.tail _ hc))
      (isDigit_head?_of_endsNumber hrest)
    have hexp : (letter == 'e' || letter == 'E') = true := by simpa using hletter
    refine ⟨stop + 1 + ds.length, ?_⟩
    simp only [List.cons_append, List.append_assoc, skipExponent, hexp, if_true, hskip, hd, htake,
      hdrop]

/-- Behind the digits of a number the fraction, the exponent or the end of the number is told by
the next character. -/
theorem ExponentText.head?_append {text rest : List Char} (h : ExponentText text)
    (hrest : endsNumber rest = true) :
    ∀ c ∈ (text ++ rest).head?, c.isDigit = false ∧ c ≠ '.' := by
  cases h with
  | none =>
    cases rest with
    | nil => exact fun c hc => nomatch hc
    | cons c rest =>
      simp only [endsNumber, Bool.and_eq_true, Bool.not_eq_true', bne_iff_ne] at hrest
      simpa using hrest.1.1
  | some hletter =>
    rintro c ⟨⟩
    rcases hletter with rfl | rfl <;> decide

theorem FractionText.head?_append {text exponent rest : List Char} (h : FractionText text)
    (hexponent : ExponentText exponent) (hrest : endsNumber rest = true) :
    ∀ c ∈ (text ++ (exponent ++ rest)).head?, c.isDigit = false := by
  cases h with
  | none => exact fun c hc => (hexponent.head?_append hrest c hc).1
  | some =>
    rintro c ⟨⟩
    rfl

theorem isZero_and_eq_false {d : Char} {ds : List Char} (h : d = '0' → ds = []) :
    (d == '0' && !ds.isEmpty) = false := by
  rw [Bool.and_eq_false_iff]
  by_cases hd : d = '0'
  · exact .inr (by rw [h hd]; rfl)
  · exact .inl (by simpa using hd)

/-- A number is skipped up to its end. -/
theorem NumberText.exists_skipNumber {text rest : List Char} (h : NumberText text)
    (hrest : endsNumber rest = true) (offset : Nat) :
    ∃ stop, skipNumber offset (text ++ rest) = .ok ⟨(), stop, rest⟩ := by
  obtain ⟨hsign, hdigits, hzero, hfraction, hexponent⟩ := h
  rename_i sign ds fraction exponent d
  have hunsigned (offset : Nat) : ∃ stop,
      skipUnsigned offset (d :: (ds ++ (fraction ++ (exponent ++ rest)))) =
        .ok ⟨(), stop, rest⟩ := by
    obtain ⟨htake, hdrop⟩ := Decimal.span_append (fun c hc => hdigits c (.tail _ hc))
      (hfraction.head?_append hexponent hrest)
    have hd := hdigits d (.head _)
    simp only [skipUnsigned, hd, htake, hdrop, isZero_and_eq_false hzero, Bool.not_true,
      Bool.false_eq_true, if_false]
    cases hfraction with
    | none =>
      have hdot := hexponent.head?_append hrest
      rw [List.nil_append]
      split
      · next heq => exact absurd rfl (hdot '.' (by rw [heq]; rfl)).2
      · exact hexponent.exists_skipExponent hrest _
    | some hne hds =>
      obtain ⟨htake, hdrop⟩ :=
        Decimal.span_append hds fun c hc => (hexponent.head?_append hrest c hc).1
      simp only [List.cons_append, htake, hdrop, List.isEmpty_iff, hne, if_false]
      exact hexponent.exists_skipExponent hrest _
  have hd : d ≠ '-' := by
    rintro rfl
    cases hdigits '-' (.head _)
  rcases hsign with rfl | rfl
  · simp only [List.nil_append, List.cons_append, List.append_assoc]
    rw [skipNumber.eq_2 _ _ fun cs heq => hd (List.cons.inj heq).1]
    exact hunsigned offset
  · simp only [List.cons_append, List.nil_append, List.append_assoc, skipNumber]
    exact hunsigned (offset + 1)

/-! ### Values -/

theorem valueOf_takeReal (isNegative : Bool) (digits : Nat) (exponent : Int)
    (offset offset' : Nat) (rest rest' : List Char) :
    valueOf (takeReal isNegative digits exponent offset rest) =
      valueOf (takeReal isNegative digits exponent offset' rest') := by
  unfold takeReal
  split <;> rfl

theorem valueOf_takeInteger (isNegative : Bool) (digits : Nat) (offset offset' : Nat)
    (rest rest' : List Char) :
    valueOf (takeInteger isNegative digits offset rest) =
      valueOf (takeInteger isNegative digits offset' rest') := by
  unfold takeInteger
  split
  · rfl
  split
  · exact valueOf_takeReal _ _ _ _ _ _ _
  · rfl

variable {rest rest' : List Char}

theorem exponentDigits_of_endsNumber (h : endsNumber rest = true) (harmless isNegative : Bool)
    (n offset : Nat) :
    exponentDigits harmless isNegative n offset rest = .ok ⟨⟨isNegative, n⟩, offset, rest⟩ := by
  cases rest with
  | nil => rfl
  | cons c rest =>
    have hc : c.isDigit = false := isDigit_head?_of_endsNumber h c rfl
    simp [exponentDigits, hc]

theorem valueOf_exponentDigits (h : endsNumber rest = true) (h' : endsNumber rest' = true)
    {ds : List Char} (hds : ∀ d ∈ ds, d.isDigit = true) (harmless isNegative : Bool)
    (n offset offset' : Nat) :
    valueOf (exponentDigits harmless isNegative n offset (ds ++ rest)) =
      valueOf (exponentDigits harmless isNegative n offset' (ds ++ rest')) := by
  induction ds generalizing n offset offset' with
  | nil => simp [exponentDigits_of_endsNumber h, exponentDigits_of_endsNumber h', valueOf,
      Except.toOption]
  | cons d ds ih =>
    have hd : d.isDigit = true := hds d (.head _)
    simp only [List.cons_append, exponentDigits, hd, if_true]
    split
    · exact ih (fun c hc => hds c (.tail _ hc)) _ _ _
    · split <;> rfl

theorem valueOf_takeExponent (h : endsNumber rest = true) (h' : endsNumber rest' = true)
    {sign ds : List Char} (hsign : sign = [] ∨ sign = ['+'] ∨ sign = ['-']) (hne : ds ≠ [])
    (hds : ∀ d ∈ ds, d.isDigit = true) (harmless : Bool) (offset offset' : Nat) :
    valueOf (takeExponent harmless offset (sign ++ (ds ++ rest))) =
      valueOf (takeExponent harmless offset' (sign ++ (ds ++ rest'))) := by
  obtain ⟨d, ds, rfl⟩ := List.exists_cons_of_ne_nil hne
  have hd := hds d (.head _)
  obtain ⟨stop, hskip⟩ := exists_skipSign hsign hd offset (ds ++ rest)
  obtain ⟨stop', hskip'⟩ := exists_skipSign hsign hd offset' (ds ++ rest')
  have hhead (rest : List Char) : (sign ++ d :: rest).head? = (sign ++ [d]).head? := by
    cases sign <;> rfl
  simp only [takeExponent, List.cons_append, hskip, hskip', hd, if_true, hhead (ds ++ rest),
    hhead (ds ++ rest')]
  exact valueOf_exponentDigits h h' hds _ _ _ _ _

theorem takeScaled_of_endsNumber (h : endsNumber rest = true) (isNegative : Bool) (digits : Nat)
    (exponent : Int) (offset : Nat) :
    takeScaled isNegative digits exponent offset rest =
      takeReal isNegative digits exponent offset rest := by
  cases rest with
  | nil => rfl
  | cons c rest =>
    have hc : (c == 'e' || c == 'E') = false := by
      simp only [endsNumber, Bool.and_eq_true, bne_iff_ne] at h
      simp [h.1.2, h.2]
    simp only [takeScaled, hc, Bool.false_eq_true, if_false]

theorem ExponentText.valueOf_takeScaled {text : List Char} (htext : ExponentText text)
    (h : endsNumber rest = true) (h' : endsNumber rest' = true) (isNegative : Bool) (digits : Nat)
    (exponent : Int) (offset offset' : Nat) :
    valueOf (takeScaled isNegative digits exponent offset (text ++ rest)) =
      valueOf (takeScaled isNegative digits exponent offset' (text ++ rest')) := by
  cases htext with
  | none =>
    simp only [List.nil_append, takeScaled_of_endsNumber h, takeScaled_of_endsNumber h']
    exact valueOf_takeReal _ _ _ _ _ _ _
  | @some letter sign ds hletter hsign hne hds =>
    have hexp : (letter == 'e' || letter == 'E') = true := by simpa using hletter
    have hvalue := valueOf_takeExponent h h' hsign hne hds (digits == 0) (offset + 1) (offset' + 1)
    simp only [List.cons_append, List.append_assoc, takeScaled, hexp, if_true]
    cases hread : takeExponent (digits == 0) (offset + 1) (sign ++ (ds ++ rest)) with
    | error p =>
      cases hread' : takeExponent (digits == 0) (offset' + 1) (sign ++ (ds ++ rest')) with
      | error p' => rfl
      | ok r' => rw [hread, hread'] at hvalue; cases hvalue
    | ok r =>
      cases hread' : takeExponent (digits == 0) (offset' + 1) (sign ++ (ds ++ rest')) with
      | error p' => rw [hread, hread'] at hvalue; cases hvalue
      | ok r' =>
        rw [hread, hread'] at hvalue
        have heq : r.value = r'.value := Option.some.inj hvalue
        simp only [heq]
        exact valueOf_takeReal _ _ _ _ _ _ _

theorem valueOf_takeFraction {ds text : List Char} (hne : ds ≠ [])
    (hds : ∀ d ∈ ds, d.isDigit = true) (htext : ExponentText text)
    (h : endsNumber rest = true) (h' : endsNumber rest' = true) (isNegative : Bool) (digits : Nat)
    (exponent : Int) (offset offset' : Nat) :
    valueOf (takeFraction isNegative digits exponent offset (ds ++ (text ++ rest))) =
      valueOf (takeFraction isNegative digits exponent offset' (ds ++ (text ++ rest'))) := by
  obtain ⟨htake, hdrop⟩ :=
    Decimal.span_append hds fun c hc => (htext.head?_append h c hc).1
  obtain ⟨htake', hdrop'⟩ :=
    Decimal.span_append hds fun c hc => (htext.head?_append h' c hc).1
  have hnonempty : ds.isEmpty = false := by simpa using hne
  simp only [takeFraction, htake, hdrop, htake', hdrop', hnonempty, Bool.false_eq_true, if_false]
  exact htext.valueOf_takeScaled h h' _ _ _ _ _

/-- Digits alone are an integer, or else a double if there are too many of them. -/
theorem takeUnsigned_digits {d : Char} {ds : List Char}
    (hdigits : ∀ c ∈ d :: ds, c.isDigit = true) (hzero : d = '0' → ds = [])
    (h : endsNumber rest = true) (isNegative : Bool) (offset : Nat) :
    takeUnsigned isNegative offset (d :: (ds ++ rest)) =
      if (addDigits 0 (d :: ds)).2.isEmpty then
        takeInteger isNegative (addDigits 0 (d :: ds)).1 (offset + 1 + ds.length) rest
      else
        takeReal isNegative (addDigits 0 (d :: ds)).1 (addDigits 0 (d :: ds)).2.length
          (offset + 1 + ds.length) rest := by
  obtain ⟨htake, hdrop⟩ := Decimal.span_append (fun c hc => hdigits c (.tail _ hc))
    (isDigit_head?_of_endsNumber h)
  have hd := hdigits d (.head _)
  simp only [takeUnsigned, hd, htake, hdrop, isZero_and_eq_false hzero, Bool.not_true,
    Bool.false_eq_true, if_false]
  split
  · cases h
  · cases h
  · cases h
  · rfl

theorem valueOf_takeUnsigned {d : Char} {ds fraction exponent : List Char}
    (hdigits : ∀ c ∈ d :: ds, c.isDigit = true) (hzero : d = '0' → ds = [])
    (hfraction : FractionText fraction) (hexponent : ExponentText exponent)
    (h : endsNumber rest = true) (h' : endsNumber rest' = true) (isNegative : Bool)
    (offset offset' : Nat) :
    valueOf (takeUnsigned isNegative offset (d :: (ds ++ (fraction ++ (exponent ++ rest))))) =
      valueOf (takeUnsigned isNegative offset'
        (d :: (ds ++ (fraction ++ (exponent ++ rest'))))) := by
  have hds : ∀ c ∈ ds, c.isDigit = true := fun c hc => hdigits c (.tail _ hc)
  have hd := hdigits d (.head _)
  obtain ⟨htake, hdrop⟩ := Decimal.span_append hds (hfraction.head?_append hexponent h)
  obtain ⟨htake', hdrop'⟩ := Decimal.span_append hds (hfraction.head?_append hexponent h')
  cases hfraction with
  | some hne hds =>
    simp only [takeUnsigned, hd, htake, hdrop, htake', hdrop', isZero_and_eq_false hzero,
      Bool.not_true, Bool.false_eq_true, if_false]
    exact valueOf_takeFraction hne hds hexponent h h' _ _ _ _ _
  | none =>
    cases hexponent with
    | some hletter hsign hne hds =>
      have hvalue := (ExponentText.some hletter hsign hne hds).valueOf_takeScaled h h'
      simp only [takeUnsigned, hd, htake, hdrop, htake', hdrop', isZero_and_eq_false hzero,
        Bool.not_true, Bool.false_eq_true, if_false]
      rcases hletter with rfl | rfl
      · exact hvalue _ _ _ _ _
      · exact hvalue _ _ _ _ _
    | none =>
      simp only [List.nil_append, takeUnsigned_digits hdigits hzero h,
        takeUnsigned_digits hdigits hzero h']
      split
      · exact valueOf_takeInteger _ _ _ _ _ _
      · exact valueOf_takeReal _ _ _ _ _ _ _

/-- The value of a number does not depend on where it stands. -/
theorem NumberText.valueOf_takeNumber {text : List Char} (htext : NumberText text)
    (h : endsNumber rest = true) (h' : endsNumber rest' = true) (offset offset' : Nat) :
    valueOf (takeNumber offset (text ++ rest)) = valueOf (takeNumber offset' (text ++ rest')) := by
  obtain ⟨hsign, hdigits, hzero, hfraction, hexponent⟩ := htext
  rename_i sign ds fraction exponent d
  have hd : d ≠ '-' := by
    rintro rfl
    cases hdigits '-' (.head _)
  have hvalue := valueOf_takeUnsigned hdigits hzero hfraction hexponent h h'
  rcases hsign with rfl | rfl
  · simp only [List.nil_append, List.cons_append, List.append_assoc]
    rw [takeNumber.eq_2 _ _ fun cs heq => hd (List.cons.inj heq).1,
      takeNumber.eq_2 _ _ fun cs heq => hd (List.cons.inj heq).1]
    exact hvalue false offset offset'
  · simp only [List.cons_append, List.nil_append, List.append_assoc, takeNumber]
    exact hvalue true (offset + 1) (offset' + 1)

end PatternProse.Json
