import PatternProse.Quantifier

/-!
# Tokens of quantifiers

What the tokens of quantifiers are made of, and which counts they stand for.

## Main definitions

* `Quantifier.counts` — the least and the greatest count of a quantifier.
* `Quantifier.isReversed` — whether these are the wrong way around.
* `startsQuantifier` — whether a text would quantify what it follows.
-/

namespace PatternProse

theorem Decimal.notMem_digits {c : Char} (h : c.isDigit = false) (n : Nat) : c ∉ digits n := by
  intro hc
  rw [isDigit_of_mem_digits hc] at h
  cases h

namespace Quantifier

/-- The least and the greatest count of a quantifier. -/
def counts : Quantifier → Nat × Option Nat
  | zeroOrMore => (0, none)
  | oneOrMore => (1, none)
  | zeroOrOne => (0, some 1)
  | exactly n => (n.toNat, some n.toNat)
  | atLeast n => (n.toNat, none)
  | between n m => (n.toNat, some m.toNat)

/-- Whether the greatest count of a quantifier is below the least one. -/
def isReversed : Quantifier → Bool
  | between min max => max < min
  | _ => false

theorem any_counts_lt (q : Quantifier) : q.counts.2.any (· < q.counts.1) = q.isReversed := by
  cases q with
  | between n m => exact decide_eq_decide.2 UInt32.lt_iff_toNat_lt.symm
  | _ => simp [counts, isReversed]

theorem isDigit_or_mem_of_mem_chars {q : Quantifier} {c : Char} (h : c ∈ q.chars) :
    c.isDigit = true ∨ c ∈ ['*', '+', '?', '{', ',', '}'] := by
  have hdigits : ∀ n, c ∈ Decimal.digits n → c.isDigit = true := by
    intro n hc
    exact Decimal.isDigit_of_mem_digits hc
  cases q <;> grind [chars]

end Quantifier

/-- Whether a text starts with a character that starts a quantifier. -/
def startsQuantifier (cs : List Char) : Bool :=
  cs.head?.any fun c => ['*', '+', '?', '{'].contains c

theorem startsQuantifier_append {s t : List Char} (hs : startsQuantifier s = false)
    (ht : startsQuantifier t = false) : startsQuantifier (s ++ t) = false := by
  cases s with
  | nil => exact ht
  | cons c s => exact hs

theorem startsQuantifier_append_of_ne_nil {s : List Char} (h : s ≠ []) (t : List Char) :
    startsQuantifier (s ++ t) = startsQuantifier s := by
  cases s with
  | nil => exact absurd rfl h
  | cons c s => rfl

theorem head?_ne_of_startsQuantifier {c : Char} {cs : List Char}
    (hc : c ∈ ['*', '+', '?', '{']) (h : startsQuantifier cs = false) : cs.head? ≠ some c := by
  intro hcs
  rw [startsQuantifier, hcs, Option.any_some, List.contains_iff_mem.2 hc] at h
  cases h

end PatternProse
