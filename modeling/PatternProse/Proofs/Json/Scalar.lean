import PatternProse.Json.Printer
import PatternProse.Proofs.Json.Lexeme

/-!
# Scalars read back

The texts that strings and natural numbers are written as are lexemes of these.

The main statements are `Json.spells_escaped`, `Json.numberText_digits` and
`Json.takeNumber_digits`.
-/

namespace PatternProse.Json

open Hexadecimal (digit digitValue? digitValue?_digit)

/-! ## Strings -/

/-- The number of a control character has two digits at most. -/
theorem hexText_digit {n : Nat} (h : n < 0x20) :
    HexText ['0', '0', digit (n / 16), digit (n % 16)] n := by
  have hzero : digitValue? '0' = some 0 := rfl
  have hhigh : digitValue? (digit (n / 16)) = some (n / 16) := digitValue?_digit (by omega)
  have hlow : digitValue? (digit (n % 16)) = some (n % 16) := digitValue?_digit (by omega)
  have hsum : 4096 * 0 + 256 * 0 + 16 * (n / 16) + n % 16 = n := by omega
  have hdigits := HexText.mk hzero hzero hhigh hlow
  rwa [hsum] at hdigits

theorem escaping_escapeChar (c : Char) : Escaping c (escapeChar c) := by
  have hchar : ∀ n, (c.toNat == n) = true → Char.ofNat n = c := by
    intro n h
    rw [← eq_of_beq h, Char.ofNat_toNat]
  unfold escapeChar
  split
  · exact .short rfl
  · exact .short rfl
  · exact .short rfl
  · exact .short rfl
  · exact .short rfl
  · next hquote hbackslash _ _ _ =>
    split
    · next h => exact .short (congrArg some (hchar 0x08 h))
    · split
      · next h => exact .short (congrArg some (hchar 0x0C h))
      · split
        · next h => exact .number (hexText_digit h)
        · next h => exact .plain h hquote hbackslash

/-- The text that characters are written as spells them. -/
theorem spells_escaped (cs : List Char) : Spells (cs.flatMap escapeChar) cs := by
  induction cs with
  | nil => exact .nil
  | cons c cs ih =>
    rw [List.flatMap_cons]
    exact .cons (escaping_escapeChar c) ih

/-! ## Numbers -/

/-- Digits are added as long as the number that they stand for has at most 64 bits. -/
theorem addDigits_eq {n : Nat} {ds : List Char}
    (h : ds.foldl (fun n c => 10 * n + Decimal.digitValue c) n ≤ maxNatural) :
    addDigits n ds = (ds.foldl (fun n c => 10 * n + Decimal.digitValue c) n, []) := by
  have hgrows : ∀ (ds : List Char) (n : Nat),
      n ≤ ds.foldl (fun n c => 10 * n + Decimal.digitValue c) n := by
    intro ds
    induction ds with
    | nil => exact Nat.le_refl
    | cons d ds ih =>
      intro n
      have := ih (10 * n + Decimal.digitValue d)
      rw [List.foldl_cons]
      omega
  induction ds generalizing n with
  | nil => rfl
  | cons d ds ih =>
    have hfits : 10 * n + Decimal.digitValue d ≤ maxNatural := Nat.le_trans (hgrows ds _) h
    simp only [addDigits, hfits, if_true]
    exact ih h

theorem addDigits_digits {n : Nat} (h : n ≤ maxNatural) :
    addDigits 0 (Decimal.digits n) = (n, []) := by
  have hvalue : (Decimal.digits n).foldl (fun n c => 10 * n + Decimal.digitValue c) 0 = n :=
    Decimal.value_digits n
  rw [addDigits_eq (by rw [hvalue]; exact h), hvalue]

/-- No number but zero is written with a zero in front. -/
theorem eq_nil_of_digits_eq_cons {n : Nat} {ds : List Char} (h : Decimal.digits n = '0' :: ds) :
    ds = [] := by
  fun_induction Decimal.digits n generalizing ds with
  | case1 => exact (List.cons.inj h).2.symm
  | case2 n hn ih =>
    cases hds : Decimal.digits (n / 10) with
    | nil => exact absurd hds (Decimal.digits_ne_nil _)
    | cons d ds' =>
      rw [hds, List.cons_append] at h
      obtain ⟨rfl, -⟩ := List.cons.inj h
      have hzero := Decimal.value_digits (n / 10)
      rw [hds, ih hds] at hzero
      have : Decimal.value ['0'] = 0 := by decide
      omega

/-- The digits of a natural number are a number by themselves. -/
theorem exists_digits (n : Nat) :
    ∃ d ds, Decimal.digits n = d :: ds ∧ (∀ c ∈ d :: ds, c.isDigit = true) ∧
      (d = '0' → ds = []) := by
  cases hds : Decimal.digits n with
  | nil => exact absurd hds (Decimal.digits_ne_nil n)
  | cons d ds =>
    refine ⟨d, ds, rfl, fun c hc => Decimal.isDigit_of_mem_digits (hds ▸ hc), ?_⟩
    rintro rfl
    exact eq_nil_of_digits_eq_cons hds

theorem numberText_digits (n : Nat) : NumberText (Decimal.digits n) := by
  obtain ⟨d, ds, hds, hdigits, hzero⟩ := exists_digits n
  have h := NumberText.mk (.inl rfl) hdigits hzero .none .none
  rwa [List.nil_append, List.append_nil, List.append_nil, ← hds] at h

/-- A natural number is read back from its digits. -/
theorem takeNumber_digits {n : Nat} (h : n ≤ maxNatural) (offset : Nat) :
    ∃ stop, takeNumber offset (Decimal.digits n) = .ok ⟨.natural n, stop, []⟩ := by
  obtain ⟨d, ds, hds, hdigits, hzero⟩ := exists_digits n
  have hadd := addDigits_digits h
  have hsign : d ≠ '-' := by
    rintro rfl
    cases hdigits '-' (.head _)
  rw [hds] at hadd ⊢
  refine ⟨offset + 1 + ds.length, ?_⟩
  rw [takeNumber.eq_2 _ _ fun cs heq => hsign (List.cons.inj heq).1, ← List.append_nil ds,
    takeUnsigned_digits hdigits hzero rfl, List.append_nil, hadd]
  rfl

end PatternProse.Json
