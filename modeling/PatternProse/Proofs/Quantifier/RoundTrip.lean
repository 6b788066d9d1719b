import Mathlib.Data.List.Induction
import Mathlib.Data.List.TakeDrop
import PatternProse.Proofs.Quantifier

/-!
# Reading and writing quantifiers

A quantifier is read from its token just if the token has one of six forms, where a count is
written with one or more digits and fits in 32 bits. Writing the quantifier again gives the token
back, but for the zeros in front of its counts.

## Main definitions

* `Decimal.trimZeros` — a text without the zeros in front of the numbers in it.
* `Quantifier.IsCount`, `Quantifier.IsToken` — the forms of counts and of tokens.

The main statement is `Quantifier.token_round_trip`.
-/

namespace PatternProse

namespace Decimal

/-! ### Digits and their values -/

theorem value_append_singleton (ds : List Char) (d : Char) :
    value (ds ++ [d]) = 10 * value ds + digitValue d := by
  simp [value]

theorem value_zero_cons (ds : List Char) : value ('0' :: ds) = value ds := rfl

theorem digitValue_lt {d : Char} (h : d.isDigit = true) : digitValue d < 10 := by
  simp only [Char.isDigit, Bool.and_eq_true, decide_eq_true_eq] at h
  have hle : d.val.toNat ≤ 57 := UInt32.le_iff_toNat_le.1 h.2
  have htoNat : d.toNat = d.val.toNat := rfl
  have hzero : '0'.toNat = 48 := rfl
  rw [digitValue, htoNat, hzero]
  omega

theorem digit_digitValue {d : Char} (h : d.isDigit = true) : digit (digitValue d) = d := by
  simp only [Char.isDigit, Bool.and_eq_true, decide_eq_true_eq, ge_iff_le] at h
  have hle : 48 ≤ d.val.toNat := UInt32.le_iff_toNat_le.1 h.1
  have htoNat : d.toNat = d.val.toNat := rfl
  have hzero : '0'.toNat = 48 := rfl
  rw [digit, digitValue, hzero, Nat.add_sub_cancel' (htoNat ▸ hle), Char.ofNat_toNat]

theorem digitValue_pos {d : Char} (h : d.isDigit = true) (hd : d ≠ '0') : 0 < digitValue d := by
  by_contra hvalue
  have hzero : digitValue d = 0 := by omega
  apply hd
  rw [← digit_digitValue h, hzero]
  rfl

/-- Digits that do not start with a zero stand for a number that is not zero. -/
theorem value_pos {d : Char} (ds : List Char) (h : d.isDigit = true) (hd : d ≠ '0') :
    0 < value (d :: ds) := by
  induction ds using List.reverseRecOn with
  | nil => simpa [value] using digitValue_pos h hd
  | append_singleton ds e ih =>
    rw [← List.cons_append, value_append_singleton]
    omega

/-- The digits of the number that some digits stand for are these, unless a zero is in front. -/
theorem digits_value {d : Char} {ds : List Char} (h : ∀ e ∈ d :: ds, e.isDigit = true)
    (hd : d ≠ '0') : digits (value (d :: ds)) = d :: ds := by
  induction ds using List.reverseRecOn with
  | nil =>
    have hdigit : d.isDigit = true := h d (.head _)
    have hvalue : value [d] = digitValue d := by simp [value]
    rw [digits, hvalue, if_pos (digitValue_lt hdigit), digit_digitValue hdigit]
  | append_singleton ds e ih =>
    have hpos := value_pos ds (h d (.head _)) hd
    have hdigit : e.isDigit = true := h e (by simp)
    have hlt := digitValue_lt hdigit
    have hds := ih fun e he => h e (by simp at he ⊢; tauto)
    rw [← List.cons_append, value_append_singleton, digits, if_neg (by omega),
      Nat.mul_add_div (by decide), Nat.mul_add_mod, Nat.div_eq_of_lt hlt, Nat.mod_eq_of_lt hlt,
      Nat.add_zero, hds, digit_digitValue hdigit]

/-! ### Zeros in front -/

/-- A text without the zeros in front of the numbers in it, where `inNumber` says whether a digit
stands before the text. A number keeps its last digit. -/
def trimZeros (inNumber : Bool) : List Char → List Char
  | [] => []
  | c :: cs =>
    if !inNumber && c == '0' && cs.head?.any Char.isDigit then trimZeros false cs
    else c :: trimZeros c.isDigit cs

theorem trimZeros_cons_of_not_isDigit {c : Char} (h : c.isDigit = false) (inNumber : Bool)
    (cs : List Char) : trimZeros inNumber (c :: cs) = c :: trimZeros false cs := by
  have hc : c ≠ '0' := by
    rintro rfl
    cases h
  simp [trimZeros, hc, h]

theorem trimZeros_append {ds : List Char} (h : ∀ d ∈ ds, d.isDigit = true) (rest : List Char) :
    trimZeros true (ds ++ rest) = ds ++ trimZeros true rest := by
  induction ds with
  | nil => rfl
  | cons d ds ih =>
    obtain ⟨hd, hds⟩ := List.forall_mem_cons.1 h
    simp [trimZeros, hd, ih hds]

/-- Without the zeros in front a number is written with its digits. -/
theorem trimZeros_digits {ds : List Char} (hne : ds ≠ []) (h : ∀ d ∈ ds, d.isDigit = true)
    {rest : List Char} (hrest : rest.head?.any Char.isDigit = false) :
    trimZeros false (ds ++ rest) = digits (value ds) ++ trimZeros true rest := by
  induction ds with
  | nil => exact absurd rfl hne
  | cons d ds ih =>
    obtain ⟨hd, hds⟩ := List.forall_mem_cons.1 h
    by_cases hzero : d = '0'
    · subst hzero
      cases ds with
      | nil => simp [trimZeros, hrest, value, digits, digitValue, digit]
      | cons e ds =>
        have he : e.isDigit = true := hds e (.head _)
        have htrim := ih (List.cons_ne_nil e ds) hds
        rw [value_zero_cons, ← htrim, List.cons_append, trimZeros]
        simp [he]
    · rw [digits_value h hzero, List.cons_append, List.cons_append, trimZeros]
      simp [hzero, hd, trimZeros_append hds]

end Decimal

namespace Quantifier

open Decimal

/-- How a count is written: with one or more digits, of which the first ones may be zeros, and
with a value that fits in 32 bits. -/
structure IsCount (ds : List Char) : Prop where
  ne_nil : ds ≠ []
  isDigit : ∀ d ∈ ds, d.isDigit = true
  value_le : value ds ≤ 4294967295

/-- The count that some digits stand for. -/
def countOf (ds : List Char) : UInt32 := UInt32.ofNat (value ds)

/-- The forms of tokens, each with the quantifier that it stands for. -/
inductive IsToken : List Char → Quantifier → Prop
  | zeroOrMore : IsToken ['*'] .zeroOrMore
  | oneOrMore : IsToken ['+'] .oneOrMore
  | zeroOrOne : IsToken ['?'] .zeroOrOne
  | exactly {ds : List Char} : IsCount ds → IsToken ('{' :: (ds ++ ['}'])) (.exactly (countOf ds))
  | atLeast {ds : List Char} :
    IsCount ds → IsToken ('{' :: (ds ++ [',', '}'])) (.atLeast (countOf ds))
  | between {ds es : List Char} : IsCount ds → IsCount es →
    IsToken ('{' :: (ds ++ ',' :: (es ++ ['}']))) (.between (countOf ds) (countOf es))

/-! ### Counts -/

theorem count?_eq_some_iff {ds : List Char} {n : UInt32} :
    count? ds = some n ↔ IsCount ds ∧ n = countOf ds := by
  have hsize : UInt32.size = 4294967296 := rfl
  constructor
  · intro h
    simp only [count?, hsize] at h
    split at h
    · cases h
    · next hdigits =>
      simp only [Bool.or_eq_true, Bool.not_eq_true', not_or, Bool.not_eq_true,
        Bool.not_eq_false, List.isEmpty_eq_false_iff, List.all_eq_true] at hdigits
      split at h
      · next hlt =>
        cases h
        exact ⟨⟨hdigits.1, hdigits.2, by omega⟩, rfl⟩
      · cases h
  · rintro ⟨⟨hne, hdigits, hvalue⟩, rfl⟩
    have hlt : value ds < 4294967296 := by omega
    simp [count?, hne, List.all_eq_true.2 hdigits, hsize, hlt, countOf]

theorem toNat_countOf {ds : List Char} (h : IsCount ds) : (countOf ds).toNat = value ds := by
  have hlt : value ds < UInt32.size := Nat.lt_succ_of_le h.value_le
  rw [countOf, UInt32.toNat_ofNat_of_lt' hlt]

theorem isCount_digits (n : UInt32) : IsCount (digits n.toNat) where
  ne_nil := digits_ne_nil n.toNat
  isDigit := fun _ => isDigit_of_mem_digits
  value_le := by
    rw [value_digits]
    exact Nat.le_of_lt_succ n.toNat_lt

theorem countOf_digits (n : UInt32) : countOf (digits n.toNat) = n := by
  rw [countOf, value_digits, UInt32.ofNat_toNat]

theorem count?_of_isCount {ds : List Char} (h : IsCount ds) : count? ds = some (countOf ds) :=
  count?_eq_some_iff.2 ⟨h, rfl⟩

/-! ### Counts in braces -/

section Counts

variable {ds : List Char}

theorem span_of_notMem (h : ',' ∉ ds) (es : List Char) :
    (ds ++ es).span (· != ',') = (ds ++ es.takeWhile (· != ','), es.dropWhile (· != ',')) := by
  have hds : ∀ d ∈ ds, (d != ',') = true := by
    intro d hd
    simpa using fun heq : d = ',' => h (heq ▸ hd)
  rw [List.span_eq_takeWhile_dropWhile, List.takeWhile_append_of_pos hds,
    List.dropWhile_append_of_pos hds]

theorem ofCounts?_of_notMem (h : ',' ∉ ds) : ofCounts? ds = (count? ds).map exactly := by
  have hspan := span_of_notMem h []
  simp only [List.takeWhile_nil, List.dropWhile_nil, List.append_nil] at hspan
  rw [ofCounts?, hspan]

theorem ofCounts?_comma (h : ',' ∉ ds) : ofCounts? (ds ++ [',']) = (count? ds).map atLeast := by
  have hspan := span_of_notMem h [',']
  simp only [bne_self_eq_false, Bool.false_eq_true, not_false_eq_true, List.takeWhile_cons_of_neg,
    List.dropWhile_cons_of_neg, List.append_nil] at hspan
  rw [ofCounts?, hspan]

theorem ofCounts?_commas (h : ',' ∉ ds) {es : List Char} (hes : es ≠ []) :
    ofCounts? (ds ++ ',' :: es) = do return between (← count? ds) (← count? es) := by
  obtain ⟨e, es, rfl⟩ := List.exists_cons_of_ne_nil hes
  have hspan := span_of_notMem h (',' :: e :: es)
  simp only [bne_self_eq_false, Bool.false_eq_true, not_false_eq_true, List.takeWhile_cons_of_neg,
    List.dropWhile_cons_of_neg, List.append_nil] at hspan
  rw [ofCounts?, hspan]

end Counts

/-- Between the braces of a token stands one count, one with a comma behind it, or two with a
comma between them. -/
theorem isToken_of_ofCounts? {inner : List Char} {q : Quantifier} (h : ofCounts? inner = some q) :
    IsToken ('{' :: (inner ++ ['}'])) q := by
  by_cases hcomma : ',' ∈ inner
  · obtain ⟨ds, es, rfl, hds⟩ := List.eq_append_cons_of_mem hcomma
    by_cases hes : es = []
    · subst hes
      rw [ofCounts?_comma hds] at h
      obtain ⟨n, hn, rfl⟩ := Option.map_eq_some_iff.1 h
      obtain ⟨hcount, rfl⟩ := count?_eq_some_iff.1 hn
      simpa using IsToken.atLeast hcount
    · rw [ofCounts?_commas hds hes] at h
      obtain ⟨n, hn, h⟩ := Option.bind_eq_some_iff.1 h
      obtain ⟨m, hm, h⟩ := Option.bind_eq_some_iff.1 h
      cases h
      obtain ⟨hcount, rfl⟩ := count?_eq_some_iff.1 hn
      obtain ⟨hcount', rfl⟩ := count?_eq_some_iff.1 hm
      simpa using IsToken.between hcount hcount'
  · rw [ofCounts?_of_notMem hcomma] at h
    obtain ⟨n, hn, rfl⟩ := Option.map_eq_some_iff.1 h
    obtain ⟨hcount, rfl⟩ := count?_eq_some_iff.1 hn
    exact .exactly hcount

/-! ### Tokens -/

theorem ofChars?_braces (inner : List Char) :
    ofChars? ('{' :: (inner ++ ['}'])) = ofCounts? inner := by
  simp [ofChars?]

theorem isToken_of_ofChars? {cs : List Char} {q : Quantifier} (h : ofChars? cs = some q) :
    IsToken cs q := by
  unfold ofChars? at h
  split at h
  · cases h; exact .zeroOrMore
  · cases h; exact .oneOrMore
  · cases h; exact .zeroOrOne
  · next rest =>
    split at h
    · next hlast =>
      obtain ⟨inner, rfl⟩ := List.getLast?_eq_some_iff.1 hlast
      rw [List.dropLast_concat] at h
      exact isToken_of_ofCounts? h
    · cases h
  · cases h

theorem ofChars?_of_isToken {cs : List Char} {q : Quantifier} (h : IsToken cs q) :
    ofChars? cs = some q := by
  have hcomma {ds : List Char} (h : IsCount ds) : ',' ∉ ds := by
    intro hmem
    have := h.isDigit ',' hmem
    contradiction
  cases h with
  | zeroOrMore | oneOrMore | zeroOrOne => rfl
  | exactly hcount =>
    rw [ofChars?_braces, ofCounts?_of_notMem (hcomma hcount), count?_of_isCount hcount]
    rfl
  | @atLeast ds hcount =>
    have hbraces := ofChars?_braces (ds ++ [','])
    rw [List.append_assoc] at hbraces
    rw [List.cons_append, List.nil_append] at hbraces
    rw [hbraces, ofCounts?_comma (hcomma hcount), count?_of_isCount hcount]
    rfl
  | @between ds es hcount hcount' =>
    have hbraces := ofChars?_braces (ds ++ ',' :: es)
    rw [List.append_assoc, List.cons_append] at hbraces
    rw [hbraces, ofCounts?_commas (hcomma hcount) hcount'.ne_nil, count?_of_isCount hcount,
      count?_of_isCount hcount']
    rfl

theorem isToken_chars (q : Quantifier) : IsToken q.chars q := by
  cases q with
  | zeroOrMore => exact .zeroOrMore
  | oneOrMore => exact .oneOrMore
  | zeroOrOne => exact .zeroOrOne
  | exactly n => simpa [chars, countOf_digits] using IsToken.exactly (isCount_digits n)
  | atLeast n => simpa [chars, countOf_digits] using IsToken.atLeast (isCount_digits n)
  | between n m =>
    simpa [chars, countOf_digits] using IsToken.between (isCount_digits n) (isCount_digits m)

/-- The counts of a quantifier are written without zeros in front, and all else as it is read. -/
theorem chars_of_isToken {cs : List Char} {q : Quantifier} (h : IsToken cs q) :
    q.chars = trimZeros false cs := by
  have hbrace (cs : List Char) : trimZeros false ('{' :: cs) = '{' :: trimZeros false cs :=
    trimZeros_cons_of_not_isDigit rfl false cs
  have hcount {ds : List Char} (h : IsCount ds) {c : Char} (hc : c.isDigit = false)
      (rest : List Char) : trimZeros false (ds ++ c :: rest) =
        digits (countOf ds).toNat ++ c :: trimZeros false rest := by
    have hrest : (c :: rest).head?.any Char.isDigit = false := by simpa using hc
    rw [trimZeros_digits h.ne_nil h.isDigit hrest, toNat_countOf h,
      trimZeros_cons_of_not_isDigit hc]
  cases h with
  | zeroOrMore | oneOrMore | zeroOrOne => rfl
  | exactly h =>
    rw [hbrace, hcount h rfl]
    rfl
  | atLeast h =>
    rw [hbrace, hcount h rfl]
    rfl
  | between h h' =>
    rw [hbrace, hcount h rfl, hcount h' rfl]
    simp [chars, trimZeros]

/-- A quantifier is read from the tokens that stand for it and from no other text, it is written
as such a token without the zeros in front of its counts, and what is written is read back. -/
theorem token_round_trip (t : String) (q : Quantifier) :
    (ofToken? t = some q ↔ IsToken t.toList q) ∧
      (ofToken? t = some q → q.token = String.ofList (trimZeros false t.toList)) ∧
      ofToken? q.token = some q := by
  refine ⟨⟨isToken_of_ofChars?, ofChars?_of_isToken⟩, ?_, ?_⟩
  · intro h
    rw [token, chars_of_isToken (isToken_of_ofChars? h)]
  · rw [ofToken?, token, String.toList_ofList]
    exact ofChars?_of_isToken (isToken_chars q)

example : ofToken? "{007,0}" = some (.between 7 0) ∧ ofToken? "{4294967296}" = none ∧
    trimZeros false "{007,0}".toList = "{7,0}".toList := by
  decide

end Quantifier

end PatternProse
