/-!
# Hexadecimal notation

Writing a number below sixteen as a hexadecimal digit and reading a digit of either case.

## Main definitions

* `Hexadecimal.digit` — the digit for a number.
* `Hexadecimal.digitValue?` — the number that a digit stands for.

The main statement is `Hexadecimal.digitValue?_digit`: the digit for a number stands for it.
-/

namespace PatternProse.Hexadecimal

/-- The digit for a number below sixteen, in lower case. -/
def digit (n : Nat) : Char :=
  if n < 10 then Char.ofNat ('0'.toNat + n) else Char.ofNat ('a'.toNat + (n - 10))

/-- The number that a digit in either case stands for. -/
def digitValue? (c : Char) : Option Nat :=
  if c.isDigit then some (c.toNat - '0'.toNat)
  else if 'a' ≤ c && c ≤ 'f' then some (c.toNat - 'a'.toNat + 10)
  else if 'A' ≤ c && c ≤ 'F' then some (c.toNat - 'A'.toNat + 10)
  else none

/-- Reading the digit for a number gives the number. -/
theorem digitValue?_digit {n : Nat} (h : n < 16) : digitValue? (digit n) = some n := by
  have hdigits : ∀ m : Fin 16, digitValue? (digit m) = some m := by decide
  exact hdigits ⟨n, h⟩

end PatternProse.Hexadecimal
