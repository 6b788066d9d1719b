import PatternProse.Json.Printer
import PatternProse.Proofs.Cli.StyledText
import PatternProse.Quotation

/-!
# Escape characters in notations

Numbers, quotations and JSON have no escape characters, whatever texts there are in them: a
quotation and a JSON text write control characters in another way.

## Main statements

* `isInert_number` — a number.
* `isInert_quotation` — a text in quotes.
* `isInert_pretty` — a JSON value over several lines.
-/

namespace PatternProse.Cli

/-! ### Numbers -/

theorem isInert_binary64 (b : Binary64) : IsInert b.text := by
  have hdigits := escapeCharacter_notMem_digits
  have hdrop (n k : Nat) : escapeCharacter ∉ (Decimal.digits n).drop k :=
    fun h => hdigits n (List.mem_of_mem_drop h)
  have htake (n k : Nat) : escapeCharacter ∉ (Decimal.digits n).take k :=
    fun h => hdigits n (List.mem_of_mem_take h)
  have hzeros := escapeCharacter_notMem_replicate (c := '0') (by decide)
  have hmark : ∀ c ∈ ['0', '.', 'e', '+', '-'], escapeCharacter ≠ c := by simp [escapeCharacter]
  simp only [List.forall_mem_cons] at hmark
  obtain ⟨hzero, hpoint, he, hplus, hminus, -⟩ := hmark
  simp only [Binary64.text]
  split
  · exact isInert_literal rfl
  split
  · exact isInert_ofList (by simp [hdigits, hzeros, hzero, hpoint])
  split
  · exact isInert_ofList (by simp [htake, hdrop, hpoint])
  split
  · exact isInert_ofList (by simp [hdigits, hzeros, hzero, hpoint])
  -- With an exponent: the first digit, the fraction if there is one, and the exponent.
  · refine isInert_ofList ?_
    simp only [List.mem_append, List.mem_cons, not_or]
    refine ⟨⟨htake _ 1, ?_⟩, he, ?_, hdigits _⟩
    · split
      · exact List.not_mem_nil
      · exact List.not_mem_cons_of_ne_of_not_mem hpoint (hdrop _ 1)
    · split
      · exact hminus
      · exact hplus

theorem isInert_number (n : Json.Number) : IsInert n.text := by
  cases n with
  | natural n => exact isInert_decimal n
  | negative n => exact .append (isInert_literal rfl) (isInert_decimal n)
  | real isNegative magnitude =>
    refine .append ?_ (isInert_binary64 magnitude)
    cases isNegative <;> exact isInert_literal rfl

/-! ### Quotations -/

theorem escapeCharacter_notMem_hexDigits (n : Nat) :
    escapeCharacter ∉ Quotation.hexDigits n := by
  have hdigit (d : Nat) : d.digitChar ≠ escapeCharacter := by simp [escapeCharacter]
  rw [Quotation.hexDigits]
  induction n using Nat.strongRecOn with
  | ind n ih =>
    by_cases h : n < 16
    · rw [Nat.toDigits_of_lt_base h, List.mem_singleton]
      exact (hdigit n).symm
    · rw [Nat.toDigits_of_base_le (by decide) (Nat.le_of_not_lt h), List.mem_append,
        List.mem_singleton, not_or]
      exact ⟨ih (n / 16) (by omega), (hdigit _).symm⟩

theorem escapeCharacter_notMem_quotation (c : Char) :
    escapeCharacter ∉ Quotation.escapeChar c := by
  unfold Quotation.escapeChar
  split
  iterate 5 decide
  split
  · decide
  split
  · next hvisible =>
    rw [List.mem_singleton]
    rintro rfl
    exact absurd hvisible (by decide)
  · rw [List.mem_append, List.mem_append, not_or, not_or]
    exact ⟨⟨by decide, escapeCharacter_notMem_hexDigits _⟩, by decide⟩

theorem isInert_quotation (s : String) : IsInert (Quotation.ofText s) := by
  refine isInert_ofList ?_
  rw [List.mem_append, List.mem_cons, List.mem_flatMap]
  rintro ((h | ⟨c, -, h⟩) | h)
  · exact absurd h (by decide)
  · exact escapeCharacter_notMem_quotation c h
  · exact absurd h (by decide)

/-! ### JSON -/

theorem digit_ne_escapeCharacter {n : Nat} (h : n < 16) :
    Hexadecimal.digit n ≠ escapeCharacter := by
  have hdigits : ∀ m : Fin 16, Hexadecimal.digit m ≠ escapeCharacter := by decide
  exact hdigits ⟨n, h⟩

theorem escapeCharacter_notMem_escapeChar (c : Char) : escapeCharacter ∉ Json.escapeChar c := by
  unfold Json.escapeChar
  split
  iterate 5 decide
  split
  · decide
  split
  · decide
  split
  · next hcontrol =>
    have hhigh := digit_ne_escapeCharacter (n := c.toNat / 16) (by omega)
    have hlow := digit_ne_escapeCharacter (n := c.toNat % 16) (by omega)
    have hmark : ∀ c ∈ ['\\', 'u', '0'], escapeCharacter ≠ c := by simp [escapeCharacter]
    simp only [List.forall_mem_cons] at hmark
    simp [hmark, hhigh.symm, hlow.symm]
  · next hcontrol =>
    rw [List.mem_singleton]
    rintro rfl
    exact hcontrol (by decide)

theorem escapeCharacter_notMem_quoted (s : String) : escapeCharacter ∉ Json.quoted s := by
  rw [Json.quoted, List.mem_append, List.mem_cons, List.mem_flatMap]
  rintro ((h | ⟨c, -, h⟩) | h)
  · exact absurd h (by decide)
  · exact escapeCharacter_notMem_escapeChar c h
  · exact absurd h (by decide)

open Json (compactChars compactItems compactMembers prettyChars prettyItems prettyMembers)

mutual

theorem escapeCharacter_notMem_compactChars : (v : Json) → escapeCharacter ∉ compactChars v
  | .null => by simp [compactChars, escapeCharacter]
  | .bool b => by cases b <;> simp [compactChars, escapeCharacter]
  | .number n => by rw [compactChars]; exact isInert_number n
  | .string s => by rw [compactChars]; exact escapeCharacter_notMem_quoted s
  | .array items => by
    have h := escapeCharacter_notMem_compactItems items
    rw [compactChars]
    exact List.not_mem_append (List.not_mem_cons_of_ne_of_not_mem (by decide) h) (by decide)
  | .object members => by
    have h := escapeCharacter_notMem_compactMembers members
    rw [compactChars]
    exact List.not_mem_append (List.not_mem_cons_of_ne_of_not_mem (by decide) h) (by decide)

theorem escapeCharacter_notMem_compactItems : (vs : List Json) →
    escapeCharacter ∉ compactItems vs
  | [] => List.not_mem_nil
  | [v] => by rw [compactItems]; exact escapeCharacter_notMem_compactChars v
  | v :: w :: rest => by
    have h := escapeCharacter_notMem_compactItems (w :: rest)
    rw [compactItems]
    exact List.not_mem_append (escapeCharacter_notMem_compactChars v)
      (List.not_mem_cons_of_ne_of_not_mem (by decide) h)

theorem escapeCharacter_notMem_compactMembers : (ms : List (String × Json)) →
    escapeCharacter ∉ compactMembers ms
  | [] => List.not_mem_nil
  | [(name, v)] => by
    have h := escapeCharacter_notMem_compactChars v
    rw [compactMembers]
    exact List.not_mem_append (escapeCharacter_notMem_quoted name)
      (List.not_mem_cons_of_ne_of_not_mem (by decide) h)
  | (name, v) :: m :: rest => by
    have h := escapeCharacter_notMem_compactMembers (m :: rest)
    have hvalue := escapeCharacter_notMem_compactChars v
    rw [compactMembers]
    exact List.not_mem_append (List.not_mem_append (escapeCharacter_notMem_quoted name)
        (List.not_mem_cons_of_ne_of_not_mem (by decide) hvalue))
      (List.not_mem_cons_of_ne_of_not_mem (by decide) h)

end

theorem escapeCharacter_notMem_newline (level : Nat) : escapeCharacter ∉ Json.newline level :=
  List.not_mem_cons_of_ne_of_not_mem (by decide) (escapeCharacter_notMem_replicate (by decide) _)

/-- The start of a member on a line of its own. -/
theorem escapeCharacter_notMem_named (level : Nat) (name : String) {cs : List Char}
    (h : escapeCharacter ∉ cs) :
    escapeCharacter ∉ Json.newline level ++ Json.quoted name ++ [':', ' '] ++ cs :=
  List.not_mem_append (List.not_mem_append (List.not_mem_append
    (escapeCharacter_notMem_newline level) (escapeCharacter_notMem_quoted name)) (by decide)) h

mutual

theorem escapeCharacter_notMem_prettyChars (level : Nat) : (v : Json) →
    escapeCharacter ∉ prettyChars level v
  | .array [] | .object [] => by rw [prettyChars]; decide
  | .array (v :: vs) => by
    have h := escapeCharacter_notMem_prettyItems (level + 1) (v :: vs)
    rw [prettyChars]
    · exact List.not_mem_append (List.not_mem_append
        (List.not_mem_cons_of_ne_of_not_mem (by decide) h)
        (escapeCharacter_notMem_newline level)) (by decide)
    · rintro ⟨⟩
  | .object (m :: ms) => by
    have h := escapeCharacter_notMem_prettyMembers (level + 1) (m :: ms)
    rw [prettyChars]
    · exact List.not_mem_append (List.not_mem_append
        (List.not_mem_cons_of_ne_of_not_mem (by decide) h)
        (escapeCharacter_notMem_newline level)) (by decide)
    · rintro ⟨⟩
  | .null | .bool _ | .number _ | .string _ => escapeCharacter_notMem_compactChars _

theorem escapeCharacter_notMem_prettyItems (level : Nat) : (vs : List Json) →
    escapeCharacter ∉ prettyItems level vs
  | [] => List.not_mem_nil
  | [v] => by
    rw [prettyItems]
    exact List.not_mem_append (escapeCharacter_notMem_newline level)
      (escapeCharacter_notMem_prettyChars level v)
  | v :: w :: rest => by
    have h := escapeCharacter_notMem_prettyItems level (w :: rest)
    rw [prettyItems]
    exact List.not_mem_append
      (List.not_mem_append (escapeCharacter_notMem_newline level)
        (escapeCharacter_notMem_prettyChars level v))
      (List.not_mem_cons_of_ne_of_not_mem (by decide) h)

theorem escapeCharacter_notMem_prettyMembers (level : Nat) : (ms : List (String × Json)) →
    escapeCharacter ∉ prettyMembers level ms
  | [] => List.not_mem_nil
  | [(name, v)] => by
    rw [prettyMembers]
    exact escapeCharacter_notMem_named level name (escapeCharacter_notMem_prettyChars level v)
  | (name, v) :: m :: rest => by
    have h := escapeCharacter_notMem_prettyMembers level (m :: rest)
    rw [prettyMembers]
    exact List.not_mem_append
      (escapeCharacter_notMem_named level name (escapeCharacter_notMem_prettyChars level v))
      (List.not_mem_cons_of_ne_of_not_mem (by decide) h)

end

theorem isInert_pretty (v : Json) : IsInert v.pretty :=
  isInert_ofList (escapeCharacter_notMem_prettyChars 0 v)

end PatternProse.Cli
