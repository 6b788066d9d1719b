import Mathlib.Data.List.Basic
import PatternProse.Proofs.Scan.Skeleton
import PatternProse.Regex.Parser

/-!
# What escapes and names take in

Behind the character after a backslash an escape may take in more of the text: digits, letters, a
name in braces, or another escape for the second half of a surrogate pair. The names of groups hold
letters and such escapes. All of this is passed over by the scan of a pattern as well, outside of
classes and inside of them.

There is one exception, the escape `\x` without two digits after it. It takes in two characters
whatever they are.

## Main definitions

* `Regex.Passes` — texts of which one is the other without such a front part.
* `Regex.hexComplete` — whether every `\x` of a text stands before two digits.

The main statements are `Regex.passes_classEscape`, `Regex.passes_groupName?` and
`Regex.Passes.scanContents_eq`.
-/

namespace PatternProse.Regex

open Token (isMetacharacter scanContents)

/-- Whether every escape `\x` of a text is followed by two hexadecimal digits. -/
def hexComplete : List Char → Bool
  | [] => true
  | '\\' :: 'x' :: cs => (hexDigits? 2 0 cs).isSome && hexComplete cs
  | '\\' :: _ :: cs => hexComplete cs
  | _ :: cs => hexComplete cs

/-- Whether a character stands for itself or for the end of the text, which names may hold. -/
def isPlain (c : Char) : Bool := !isMetacharacter c || c == '$'

/-- What an escape with the letter `c` takes in between braces, which is a code point or else the
name of a property, with no counts of a quantifier in it. -/
structure IsPayload (c : Char) (body : List Char) : Prop where
  ordinary : ∀ d ∈ body, isMetacharacter d = false
  codePoint_or_property : (c = 'u' ∧ (bracedCodePoint? (body ++ ['}'])).isSome = true) ∨
    bracedCounts? (body ++ ['}']) = none

/-- The second text is what remains of the first behind plain characters and escapes with what
they take in. -/
inductive Passes : List Char → List Char → Prop
  | refl (cs : List Char) : Passes cs cs
  | char {c : Char} {cs rest : List Char} (h : isPlain c = true) (hrest : Passes cs rest) :
    Passes (c :: cs) rest
  | escape (c : Char) {cs rest : List Char} (hrest : Passes cs rest) :
    Passes ('\\' :: c :: cs) rest
  /-- The letter of a control character that is not finished is left. -/
  | control {cs rest : List Char} (hrest : Passes ('c' :: cs) rest) :
    Passes ('\\' :: 'c' :: cs) rest
  | payload {c : Char} {body cs rest : List Char} (h : IsPayload c body) (hrest : Passes cs rest) :
    Passes ('\\' :: c :: '{' :: (body ++ '}' :: cs)) rest

theorem isPlain_of_ordinary {c : Char} (h : isMetacharacter c = false) : isPlain c = true := by
  simp [isPlain, h]

theorem isSoft_of_isPlain {c : Char} (h : isPlain c = true) : isSoft c = true :=
  isSoft_of (by decide) h

namespace Passes

theorem trans {cs ds rest : List Char} (h : Passes cs ds) (hrest : Passes ds rest) :
    Passes cs rest := by
  induction h with
  | refl => exact hrest
  | char h _ ih => exact .char h (ih hrest)
  | escape c _ ih => exact .escape c (ih hrest)
  | control _ ih => exact .control (ih hrest)
  | payload h _ ih => exact .payload h (ih hrest)

theorem one {c : Char} (h : isPlain c = true) (cs : List Char) : Passes (c :: cs) cs :=
  .char h (.refl cs)

theorem append {text : List Char} (h : ∀ c ∈ text, isMetacharacter c = false) (cs : List Char) :
    Passes (text ++ cs) cs := by
  induction text with
  | nil => exact .refl cs
  | cons c text ih =>
    exact .char (isPlain_of_ordinary (h c (.head _))) (ih fun d hd => h d (.tail _ hd))

end Passes

/-! ### What is passed over -/

theorem hexComplete_cons {c : Char} (h : c ≠ '\\') (cs : List Char) :
    hexComplete (c :: cs) = hexComplete cs := by
  rw [hexComplete]
  · exact fun _ hc => absurd hc h
  · exact fun _ _ hc => absurd hc h

theorem hexComplete_append {text : List Char} (h : '\\' ∉ text) (cs : List Char) :
    hexComplete (text ++ cs) = hexComplete cs := by
  induction text with
  | nil => rfl
  | cons c text ih =>
    rw [List.mem_cons, not_or] at h
    rw [List.cons_append, hexComplete_cons (Ne.symm h.1), ih h.2]

/-- An escape other than `\x` has no part in the matter, and one that is `\x` only makes it
harder. -/
theorem hexComplete_escape {c : Char} {cs : List Char} (h : hexComplete ('\\' :: c :: cs) = true) :
    hexComplete cs = true := by
  by_cases hc : c = 'x'
  · subst hc
    rw [hexComplete, Bool.and_eq_true] at h
    exact h.2
  · rw [hexComplete] at h
    · exact h
    · rintro rfl
      exact hc rfl

theorem notMem_of_ordinary {body : List Char} (h : ∀ c ∈ body, isMetacharacter c = false)
    {c : Char} (hc : isMetacharacter c = true) : c ∉ body := by
  intro hmem
  rw [h c hmem] at hc
  cases hc

/-- Between braces that hold nothing but ordinary characters there is nothing structural. -/
theorem any_isStructural_of_ordinary {body : List Char}
    (h : ∀ c ∈ body, isMetacharacter c = false) : body.any isStructural = false := by
  rw [List.any_eq_false]
  intro c hc hstructural
  have hordinary := h c hc
  simp_all [isMetacharacter, isStructural]

theorem hexComplete_braces {body : List Char} (h : ∀ c ∈ body, isMetacharacter c = false)
    (cs : List Char) : hexComplete ('{' :: (body ++ '}' :: cs)) = hexComplete cs := by
  rw [hexComplete_cons (by decide), hexComplete_append (notMem_of_ordinary h rfl),
    hexComplete_cons (by decide)]

/-- A character that does not end a class and is no backslash. -/
theorem scanContents_cons {c : Char} (h : c ≠ ']' ∧ c ≠ '\\') (cs : List Char) :
    (scanContents (c :: cs)).2 = (scanContents cs).2 := by
  rw [scanContents]
  · exact h.1
  · exact fun _ _ hc _ => absurd hc h.2

theorem scanContents_append {text : List Char} (h : ∀ c ∈ text, isMetacharacter c = false)
    (cs : List Char) : (scanContents (text ++ cs)).2 = (scanContents cs).2 := by
  induction text with
  | nil => rfl
  | cons c text ih =>
    have hc : c ≠ ']' ∧ c ≠ '\\' := by
      have hordinary := h c (.head _)
      constructor <;> (rintro rfl; cases hordinary)
    rw [List.cons_append, scanContents_cons hc, ih fun d hd => h d (.tail _ hd)]

namespace Passes

variable {cs rest : List Char}

theorem hexComplete (h : Passes cs rest) (hcs : hexComplete cs = true) :
    hexComplete rest = true := by
  induction h with
  | refl => exact hcs
  | char h _ ih =>
    rw [hexComplete_cons (by rintro rfl; cases h)] at hcs
    exact ih hcs
  | escape c _ ih => exact ih (hexComplete_escape hcs)
  | control _ ih =>
    refine ih ?_
    rw [hexComplete_cons (by decide)]
    exact hexComplete_escape hcs
  | payload h _ ih =>
    rw [← hexComplete_braces h.ordinary] at ih
    exact ih (hexComplete_escape hcs)

/-- What is passed over leaves no mark. -/
theorem marks_eq {μ : Type} {mark : Token → List Token → Option μ} (hmark : IsBlind mark)
    (h : Passes cs rest) : marks mark (Token.list cs) = marks mark (Token.list rest) := by
  induction h with
  | refl => rfl
  | char h _ ih => rw [hmark.marks_soft (isSoft_of_isPlain h), ih]
  | escape c _ ih => rw [hmark.marks_escape, ih]
  | control _ ih => rw [hmark.marks_escape, ← ih, hmark.marks_soft rfl]
  | payload h _ ih =>
    rw [hmark.marks_escape, hmark.marks_braces (notMem_of_ordinary h.ordinary rfl)
      (any_isStructural_of_ordinary h.ordinary), ih]

/-- What is passed over does not end a class. -/
theorem scanContents_eq (h : Passes cs rest) : (scanContents cs).2 = (scanContents rest).2 := by
  induction h with
  | refl => rfl
  | char h _ ih =>
    rw [scanContents_cons (by constructor <;> (rintro rfl; cases h)), ih]
  | escape c _ ih => rw [scanContents, ih]
  | control _ ih => rw [scanContents, ← ih, scanContents_cons (by decide)]
  | payload h _ ih =>
    rw [scanContents, scanContents_cons (by decide), scanContents_append h.ordinary,
      scanContents_cons (by decide), ih]

end Passes

/-! ### Digits -/

/-- The characters of a kind are ordinary if all metacharacters are of another kind. -/
theorem ordinary_of {p : Char → Bool} (h : (['\\', '[', ']', '(', ')', '.', '*', '+', '?', '{', '}',
    '^', '$', '|'].all (!p ·)) = true) {c : Char} (hc : p c = true) :
    isMetacharacter c = false := contains_eq_false_of h hc

theorem ordinary_of_isDigit {c : Char} (h : c.isDigit = true) : isMetacharacter c = false :=
  ordinary_of (by decide) h

theorem ordinary_of_digitValue? {c : Char} {d : Nat} (h : Hexadecimal.digitValue? c = some d) :
    isMetacharacter c = false :=
  ordinary_of (p := fun c => (Hexadecimal.digitValue? c).isSome) (by decide) (by rw [h]; rfl)

theorem ordinary_of_octalDigit? {c : Char} {d : Nat} (h : octalDigit? c = some d) :
    isMetacharacter c = false :=
  ordinary_of (p := fun c => (octalDigit? c).isSome) (by decide) (by rw [h]; rfl)

theorem passes_hexDigits? {n v w : Nat} {cs rest : List Char}
    (h : hexDigits? n v cs = some (w, rest)) : Passes cs rest := by
  fun_induction hexDigits? n v cs with
  | case1 => cases h; exact .refl _
  | case2 => cases h
  | case3 v n c cs ih =>
    obtain ⟨d, hd, h⟩ := Option.bind_eq_some_iff.1 h
    exact .char (isPlain_of_ordinary (ordinary_of_digitValue? hd)) (ih d h)

theorem ordinary_of_hexDigits? {ds : List Char} {v w : Nat} {rest : List Char}
    (h : hexDigits? ds.length v ds = some (w, rest)) : ∀ c ∈ ds, isMetacharacter c = false := by
  induction ds generalizing v with
  | nil => exact fun c hc => nomatch hc
  | cons d ds ih =>
    rw [List.length_cons, hexDigits?] at h
    obtain ⟨e, hd, h⟩ := Option.bind_eq_some_iff.1 h
    exact List.forall_mem_cons.2 ⟨ordinary_of_digitValue? hd, ih h⟩

/-- A code point in braces stands before the first closing one. -/
theorem exists_payload_of_bracedCodePoint? {cs rest : List Char} {v : Nat}
    (h : bracedCodePoint? cs = some (v, rest)) :
    ∃ body, cs = body ++ '}' :: rest ∧ IsPayload 'u' body := by
  have hcs := h
  simp only [bracedCodePoint?] at h
  split at h
  · cases h
  · next hdrop =>
    split at h
    · next hdigits =>
      split at h
      · next hvalue =>
        cases h
        have hordinary := ordinary_of_hexDigits? hdigits
        obtain ⟨htake, hdrop'⟩ := Token.span_closeBrace (notMem_of_ordinary hordinary rfl) []
        have hpoint : (bracedCodePoint? (cs.takeWhile (· != '}') ++ ['}'])).isSome = true := by
          simp only [bracedCodePoint?, htake, hdrop', hdigits, hvalue]
          rfl
        exact ⟨_, eq_of_dropWhile_ne hdrop, hordinary, .inl ⟨rfl, hpoint⟩⟩
      · cases h
    · cases h

theorem passes_lowSurrogate? {cs rest : List Char} {v : Nat}
    (h : lowSurrogate? cs = some (v, rest)) : Passes cs rest := by
  unfold lowSurrogate? at h
  split at h
  · split at h
    · next hdigits =>
      split at h
      · cases h
        exact .escape 'u' (passes_hexDigits? hdigits)
      · cases h
    · cases h
  · cases h

theorem passes_unicodeEscape? {cs rest : List Char} {v : Nat}
    (h : unicodeEscape? cs = some (v, rest)) : Passes ('\\' :: 'u' :: cs) rest := by
  unfold unicodeEscape? at h
  split at h
  · obtain ⟨body, rfl, hbody⟩ := exists_payload_of_bracedCodePoint? h
    exact .payload hbody (.refl rest)
  · split at h
    · cases h
    · next hdigits =>
      have hpasses := passes_hexDigits? hdigits
      split at h
      · split at h
        · next hlow =>
          obtain ⟨-, rfl⟩ := Prod.mk.inj (Option.some.inj h)
          exact .escape 'u' (hpasses.trans (passes_lowSurrogate? hlow))
        · cases h
          exact .escape 'u' hpasses
      · cases h
        exact .escape 'u' hpasses

theorem passes_legacyOctal (d : Nat) (cs : List Char) : Passes cs (legacyOctal d cs).2 := by
  unfold legacyOctal
  split
  · exact .refl _
  · next c cs =>
    split
    · exact .refl _
    · next hc =>
      have hone := Passes.one (isPlain_of_ordinary (ordinary_of_octalDigit? hc))
      split
      · exact hone []
      · next c' cs =>
        split
        · next hc' =>
          split
          · exact (hone _).trans (.one (isPlain_of_ordinary (ordinary_of_octalDigit? hc')) cs)
          · exact hone _
        · exact hone _

theorem passes_dropWhile_isDigit (cs : List Char) : Passes cs (cs.dropWhile Char.isDigit) := by
  have hdigits : ∀ c ∈ cs.takeWhile Char.isDigit, isMetacharacter c = false :=
    fun c hc => ordinary_of_isDigit (List.mem_takeWhile_imp hc)
  have h := Passes.append hdigits (cs.dropWhile Char.isDigit)
  rwa [List.takeWhile_append_dropWhile] at h

/-! ### Names of properties -/

/-- Whether a name consists of letters, digits and underscores of ASCII and does not start with a
digit. It is told by the bytes of the name, which are at hand. -/
def isWord (name : String) : Bool :=
  let bytes := name.toByteArray.data.toList
  bytes.all (fun b => CharClass.word.contains b.toNat) &&
    !bytes.head?.any fun b => 48 ≤ b.toNat && b.toNat ≤ 57

theorem ordinary_of_isWord {cs : List Char} (h : isWord (String.ofList cs) = true) :
    ∀ c ∈ cs, isMetacharacter c = false := by
  have hbyte : ∀ c ∈ ['\\', '[', ']', '(', ')', '.', '*', '+', '?', '{', '}', '^', '$', '|'],
      c.utf8Size = 1 ∧ CharClass.word.contains c.val.toUInt8.toNat = false :=
    List.forall_iff_forall_mem.1 (by decide)
  intro c hc
  rw [isMetacharacter, ← Bool.not_eq_true, List.contains_iff_mem]
  intro hmem
  obtain ⟨hsize, hword⟩ := hbyte c hmem
  rw [isWord, String.toByteArray_ofList, List.utf8Encode, List.data_toByteArray, Bool.and_eq_true,
    List.all_eq_true] at h
  have hbytes : c.val.toUInt8 ∈ cs.flatMap String.utf8EncodeChar := by
    refine List.mem_flatMap.2 ⟨c, hc, ?_⟩
    rw [String.utf8EncodeChar_eq_singleton hsize]
    exact .head _
  rw [h.1 _ hbytes] at hword
  cases hword

theorem val_of_isDigit {c : Char} (h : c.isDigit = true) :
    48 ≤ c.val.toNat ∧ c.val.toNat ≤ 57 := by
  simp only [Char.isDigit, ge_iff_le, Bool.and_eq_true, decide_eq_true_eq,
    UInt32.le_iff_toNat_le] at h
  exact h

theorem isDigit_head?_of_isWord {cs : List Char} (h : isWord (String.ofList cs) = true) :
    cs.head?.any Char.isDigit = false := by
  cases cs with
  | nil => rfl
  | cons c cs =>
    rw [List.head?_cons, Option.any_some, ← Bool.not_eq_true]
    intro hdigit
    obtain ⟨hlow, hhigh⟩ := val_of_isDigit hdigit
    have hsize : c.utf8Size = 1 := by
      rw [Char.utf8Size, if_pos (UInt32.le_iff_toNat_le.2 (Nat.le_trans hhigh (by decide)))]
    have hbyte : c.val.toUInt8.toNat = c.val.toNat := by
      rw [UInt32.toNat_toUInt8]
      omega
    rw [isWord, String.toByteArray_ofList, List.utf8Encode, List.data_toByteArray,
      List.flatMap_cons, String.utf8EncodeChar_eq_singleton hsize, Bool.and_eq_true] at h
    have hrange := h.2
    rw [List.singleton_append, List.head?_cons, Option.any_some, hbyte, decide_eq_true hlow,
      decide_eq_true hhigh] at hrange
    cases hrange

theorem isWord_generalCategoryNames :
    Unicode.generalCategoryNames.all (·.1.all isWord) = true := by decide +kernel

theorem isWord_binaryPropertyTable :
    Unicode.binaryPropertyTable.all (·.1.all isWord) = true := by decide +kernel

theorem isWord_scriptTable : Unicode.scriptTable.all (·.1.all isWord) = true := by decide +kernel

/-- A name that is found in a table of words is one of them. -/
theorem isWord_of_find? {α : Type} {table : List (List String × α)}
    (htable : table.all (·.1.all isWord) = true) {name : String} {entry : List String × α}
    (h : table.find? (·.1.contains name) = some entry) : isWord name = true := by
  have hentry := List.all_eq_true.1 htable entry (List.mem_of_find?_eq_some h)
  have hname := List.find?_some h
  exact List.all_eq_true.1 hentry name (List.contains_iff_mem.1 hname)

theorem isWord_of_generalCategory? {name : String} {ranges : List Unicode.CodeRange}
    (h : Unicode.generalCategory? name = some ranges) : isWord name = true := by
  obtain ⟨entry, hentry, -⟩ := Option.map_eq_some_iff.1 h
  exact isWord_of_find? isWord_generalCategoryNames hentry

theorem isWord_of_binaryProperty? {name : String} {ranges : List Unicode.CodeRange}
    (h : Unicode.binaryProperty? name = some ranges) : isWord name = true := by
  unfold Unicode.binaryProperty? at h
  split at h
  iterate 3 decide +kernel
  obtain ⟨entry, hentry, -⟩ := Option.map_eq_some_iff.1 h
  exact isWord_of_find? isWord_binaryPropertyTable hentry

theorem isWord_of_script? {name : String} {ranges : List Unicode.CodeRange}
    (h : Unicode.script? name = some ranges) : isWord name = true := by
  obtain ⟨entry, hentry, -⟩ := Option.map_eq_some_iff.1 h
  exact isWord_of_find? isWord_scriptTable hentry

theorem isWord_of_scriptExtensions? {name : String} {ranges : List Unicode.CodeRange}
    (h : Unicode.scriptExtensions? name = some ranges) : isWord name = true := by
  obtain ⟨entry, hentry, -⟩ := Option.map_eq_some_iff.1 h
  exact isWord_of_find? isWord_scriptTable hentry

/-- A property is given by words. -/
theorem ordinary_of_propertyRanges? {property : List Char} {ranges : List Unicode.CodeRange}
    (h : propertyRanges? property = some ranges) :
    (∀ c ∈ property, isMetacharacter c = false) ∧ property.head?.any Char.isDigit = false := by
  simp only [propertyRanges?] at h
  split at h
  · next hdrop =>
    have hname := List.takeWhile_append_dropWhile (p := fun c : Char => c != '=') (l := property)
    rw [hdrop, List.append_nil] at hname
    rw [hname] at h
    have hword : isWord (String.ofList property) = true := by
      rcases Option.or_eq_some_iff.1 h with h | ⟨-, h⟩
      · exact isWord_of_generalCategory? h
      · exact isWord_of_binaryProperty? h
    exact ⟨ordinary_of_isWord hword, isDigit_head?_of_isWord hword⟩
  · next c value hdrop =>
    have hwords : isWord (String.ofList (property.takeWhile (· != '='))) = true ∧
        isWord (String.ofList value) = true := by
      split at h
      · next hname => exact ⟨by rw [hname]; decide +kernel, isWord_of_generalCategory? h⟩
      · next hname => exact ⟨by rw [hname]; decide +kernel, isWord_of_generalCategory? h⟩
      · next hname => exact ⟨by rw [hname]; decide +kernel, isWord_of_script? h⟩
      · next hname => exact ⟨by rw [hname]; decide +kernel, isWord_of_script? h⟩
      · next hname => exact ⟨by rw [hname]; decide +kernel, isWord_of_scriptExtensions? h⟩
      · next hname => exact ⟨by rw [hname]; decide +kernel, isWord_of_scriptExtensions? h⟩
      · cases h
    rw [eq_of_dropWhile_ne hdrop]
    have hhead := isDigit_head?_of_isWord hwords.1
    refine ⟨fun d hd => ?_, ?_⟩
    · rcases List.mem_append.1 hd with hd | hd
      · exact ordinary_of_isWord hwords.1 d hd
      · rcases List.mem_cons.1 hd with rfl | hd
        · rfl
        · exact ordinary_of_isWord hwords.2 d hd
    · cases hname : property.takeWhile (· != '=') with
      | nil => rfl
      | cons d name =>
        rw [hname] at hhead
        exact hhead

theorem bracedCounts?_of_head? {cs : List Char} (h : cs.head?.any Char.isDigit = false) :
    bracedCounts? cs = none := by
  have hlow : cs.takeWhile Char.isDigit = [] := by
    cases cs with
    | nil => rfl
    | cons c cs => exact List.takeWhile_cons_of_neg (by simpa using h)
  simp only [bracedCounts?, hlow]
  rfl

theorem passes_propertyEscape {negated : Bool} {cs rest : List Char} {item : ClassItem}
    (h : propertyEscape negated cs = .ok (item, rest)) (c : Char) :
    Passes ('\\' :: c :: cs) rest := by
  unfold propertyEscape at h
  split at h
  · next cs =>
    split at h
    · cases h
    · next hdrop =>
      split at h
      · next hranges =>
        cases h
        obtain ⟨hordinary, hhead⟩ := ordinary_of_propertyRanges? hranges
        rw [eq_of_dropWhile_ne hdrop]
        refine .payload ⟨hordinary, .inr (bracedCounts?_of_head? ?_)⟩ (.refl rest)
        cases hbody : cs.takeWhile (· != '}') with
        | nil => rfl
        | cons d body =>
          rw [hbody] at hhead
          exact hhead
      · cases h
  · cases h

/-! ### Names of groups -/

/-- The characters of names are plain. -/
theorem isPlain_of_isIdentifier {c : Char}
    (h : Unicode.isIdentifierStart c.toNat = true ∨ Unicode.isIdentifierPart c.toNat = true) :
    isPlain c = true := by
  by_cases hdollar : c = '$'
  · rw [hdollar]
    rfl
  · let p (c : Char) : Bool := c != '$' &&
      (Unicode.isIdentifierStart c.toNat || Unicode.isIdentifierPart c.toNat)
    have hname : p c = true := by
      simpa [p, hdollar] using h
    exact isPlain_of_ordinary (ordinary_of (p := p) (by decide) hname)

theorem passes_nameCodePoint? {cs rest : List Char} {v : Nat}
    (h : nameCodePoint? cs = some (v, rest)) (hv : ∀ c : Char, c.toNat = v → isPlain c = true) :
    Passes cs rest := by
  unfold nameCodePoint? at h
  split at h
  · cases h
  · exact passes_unicodeEscape? h
  · cases h
    exact .one (hv _ rfl) rest

theorem passes_nameRest? {cs name rest : List Char} (h : nameRest? cs = some (name, rest)) :
    Passes cs rest := by
  fun_induction nameRest? cs generalizing name with
  | case1 => cases h
  | case2 cs c rest' hc hclose =>
    cases h
    refine passes_nameCodePoint? hc fun d hd => ?_
    obtain rfl : d = '>' := Char.toNat_inj.1 (hd.trans (eq_of_beq hclose))
    rfl
  | case3 cs c rest' hc _ hpart ih =>
    obtain ⟨⟨n, r⟩, hr, heq⟩ := Option.map_eq_some_iff.1 h
    cases heq
    have hfirst := passes_nameCodePoint? hc fun d hd =>
      isPlain_of_isIdentifier (.inr (hd ▸ hpart))
    exact hfirst.trans (ih hr)
  | case4 => cases h

theorem passes_groupName? {cs rest : List Char} {name : String}
    (h : groupName? cs = some (name, rest)) : Passes cs rest := by
  unfold groupName? at h
  split at h
  · split at h
    · next hc =>
      split at h
      · next hstart =>
        obtain ⟨⟨n, r⟩, hr, heq⟩ := Option.map_eq_some_iff.1 h
        cases heq
        have hfirst := passes_nameCodePoint? hc fun d hd =>
          isPlain_of_isIdentifier (.inl (hd ▸ hstart))
        exact .char rfl (hfirst.trans (passes_nameRest? hr))
      · cases h
    · cases h
  · cases h

/-! ### Escapes -/

theorem passes_digitEscape {unicode : Bool} {d v : Nat} {cs rest : List Char}
    (h : digitEscape unicode d cs = .ok (v, rest)) : Passes cs rest := by
  unfold digitEscape at h
  split at h
  · split at h
    · cases h
      exact .refl cs
    · cases h
  · have hrest := passes_legacyOctal d cs
    rwa [Except.ok.inj h] at hrest

/-- Two characters are lost after `\x` if they are no digits, so this case is left out. -/
theorem passes_characterEscape {unicode : Bool} {c : Char} {cs rest : List Char} {v : Nat}
    (h : characterEscape unicode c cs = .ok (v, rest))
    (hhex : unicode = true ∨ hexComplete ('\\' :: c :: cs) = true) :
    Passes ('\\' :: c :: cs) rest := by
  unfold characterEscape at h
  split at h
  iterate 5
    cases h
    exact .escape _ (.refl cs)
  · split at h
    · next hdigits =>
      cases h
      exact .escape 'x' (passes_hexDigits? hdigits)
    · next hdigits =>
      rcases hhex with rfl | hhex
      · cases h
      · rw [hexComplete, hdigits] at hhex
        cases hhex
  · split at h
    · next hescape =>
      cases h
      exact passes_unicodeEscape? hescape
    · split at h
      · cases h
      · cases h
        exact .escape 'u' (.refl cs)
  · split at h
    · cases h
    · cases h
      exact .escape c (.refl cs)

theorem passes_numberEscape {scope : Scope} {flags : Flags} {c : Char} {cs rest : List Char}
    {n : Node} (h : numberEscape scope flags c cs = .ok (n, rest)) : Passes cs rest := by
  simp only [numberEscape] at h
  split at h
  · cases h
    exact passes_dropWhile_isDigit cs
  split at h
  · cases h
  split at h
  · cases h
    exact passes_legacyOctal _ cs
  · cases h
    exact .refl cs

theorem passes_classEscape {unicode : Bool} {c : Char} {cs rest : List Char} {a : ClassAtom}
    (h : classEscape unicode (c :: cs) = .ok (a, rest))
    (hhex : unicode = true ∨ hexComplete ('\\' :: c :: cs) = true) :
    Passes ('\\' :: c :: cs) rest := by
  unfold classEscape at h
  dsimp only at h
  split at h
  · cases h
    exact .escape c (.refl cs)
  split at h
  · cases h
    exact .escape c (.refl cs)
  split at h
  · cases h
    exact .escape c (.refl cs)
  split at h
  · next hc =>
    obtain rfl : c = 'c' := eq_of_beq hc
    split at h
    · split at h
      · cases h
      · cases h
        exact .control (.refl _)
    · split at h
      · next hletter =>
        cases h
        let p (c : Char) : Bool := c.isAlpha || !unicode && (c.isDigit || c == '_')
        have hordinary := ordinary_of (p := p) (by cases unicode <;> decide) hletter
        exact .escape 'c' (.one (isPlain_of_ordinary hordinary) _)
      · split at h
        · cases h
        · cases h
          exact .control (.refl _)
  split at h
  · obtain ⟨item, h⟩ := of_mapRead h
    exact passes_propertyEscape h c
  split at h
  · obtain ⟨v, h⟩ := of_mapRead h
    exact .escape c (passes_digitEscape h)
  · obtain ⟨v, h⟩ := of_mapRead h
    exact passes_characterEscape h hhex

/-- An escape outside of classes takes in what is passed over. -/
theorem passes_atomEscape {scope : Scope} {flags : Flags} {c : Char} {cs rest : List Char}
    {n : Node} (h : atomEscape scope flags (c :: cs) = .ok (n, rest))
    (hhex : flags.unicode = true ∨ hexComplete ('\\' :: c :: cs) = true) :
    Passes ('\\' :: c :: cs) rest := by
  unfold atomEscape at h
  dsimp only at h
  split at h
  · cases h
    exact .escape c (.refl cs)
  split at h
  · cases h
    exact .escape c (.refl cs)
  split at h
  · cases h
    exact .escape c (.refl cs)
  split at h
  · next hc =>
    obtain rfl : c = 'c' := eq_of_beq hc
    split at h
    · split at h
      · next hletter =>
        cases h
        exact .escape 'c' (.one (isPlain_of_ordinary (ordinary_of (by decide) hletter)) _)
      · split at h
        · cases h
        · cases h
          exact .control (.refl _)
    · split at h
      · cases h
      · cases h
        exact .control (.refl _)
  split at h
  · obtain ⟨item, h⟩ := of_mapRead h
    exact passes_propertyEscape h c
  split at h
  · unfold namedReference at h
    split at h
    · cases h
    · next hname =>
      split at h
      · cases h
        exact .escape c (passes_groupName? hname)
      · cases h
  split at h
  · obtain ⟨v, h⟩ := of_mapRead h
    exact .escape c (passes_digitEscape h)
  split at h
  · exact .escape c (passes_numberEscape h)
  · obtain ⟨v, h⟩ := of_mapRead h
    exact passes_characterEscape h hhex

/-! ### Classes -/

/-- An atom of a class does not end it. -/
theorem scanContents_classAtom {unicode : Bool} {c : Char} {cs rest : List Char} {a : ClassAtom}
    (h : classAtom unicode c cs = .ok (a, rest)) (hc : c ≠ ']')
    (hhex : unicode = true ∨ hexComplete (c :: cs) = true) :
    (scanContents (c :: cs)).2 = (scanContents rest).2 ∧
      (hexComplete (c :: cs) = true → hexComplete rest = true) := by
  unfold classAtom at h
  split at h
  · next hbackslash =>
    obtain rfl : c = '\\' := eq_of_beq hbackslash
    cases cs with
    | nil => cases h
    | cons c cs =>
      have hpasses := passes_classEscape h hhex
      exact ⟨hpasses.scanContents_eq, hpasses.hexComplete⟩
  · next hbackslash =>
    have hne : c ≠ '\\' := by simpa using hbackslash
    cases h
    rw [scanContents_cons ⟨hc, hne⟩, hexComplete_cons hne]
    exact ⟨rfl, id⟩

/-- The scan ends a class where it is read to. -/
theorem scanContents_classItems {unicode : Bool} {cs rest : List Char} {items : List ClassItem}
    (h : classItems unicode cs = .ok (items, rest))
    (hhex : unicode = true ∨ hexComplete cs = true) : (scanContents cs).2 = (true, rest) := by
  fun_induction classItems unicode cs generalizing items with
  | case1 => cases h
  | case2 cs =>
    cases h
    rfl
  | case3 => cases h
  | case4 c cs hc a d rest' ha hd =>
    cases h
    obtain rfl : d = ']' := eq_of_beq hd
    exact (scanContents_classAtom ha hc hhex).1
  | case5 => cases h
  | case6 => cases h
  | case7 c cs hc a d rest' ha hd b rest'' hb items' hitems ih =>
    obtain ⟨more, hm⟩ := of_mapRead h
    obtain ⟨hcontents, hrest⟩ := scanContents_classAtom ha hc hhex
    have hhyphen : hexComplete ('-' :: d :: rest') = hexComplete (d :: rest') :=
      hexComplete_cons (by decide) _
    rw [hhyphen] at hrest
    obtain ⟨hcontents', hrest'⟩ :=
      scanContents_classAtom hb (by simpa using hd) (hhex.imp_right hrest)
    have hcontents'' := ih hm (hhex.imp_right fun h => hrest' (hrest h))
    rw [hcontents, ← hcontents'', ← hcontents']
    rfl
  | case8 c cs hc a rest' _ ha ih =>
    obtain ⟨more, hm⟩ := of_mapRead h
    obtain ⟨hcontents, hrest⟩ := scanContents_classAtom ha hc hhex
    exact hcontents.trans (ih hm (hhex.imp_right hrest))

/-- What follows a class is complete if all of the text is. -/
theorem hexComplete_scanContents {cs : List Char} (h : hexComplete cs = true) :
    hexComplete (scanContents cs).2.2 = true := by
  fun_induction scanContents cs with
  | case1 => exact h
  | case2 => rwa [hexComplete_cons (by decide)] at h
  | case3 c cs contents closed rest heq ih =>
    rw [heq] at ih
    exact ih (hexComplete_escape h)
  | case4 c cs _ hescape contents closed rest heq ih =>
    rw [heq] at ih
    by_cases hc : c = '\\'
    · have hnil : cs = [] := by
        cases cs with
        | nil => rfl
        | cons d ds => exact absurd rfl (hescape d ds hc)
      subst hnil
      exact ih rfl
    · rw [hexComplete_cons hc] at h
      exact ih h

end PatternProse.Regex
