/-!
# Properties of answers

Readers answer with what they have read or with what is wrong. A property of either is carried
through a reader from its parts.

## Main definitions

* `Answers` — answers whose values and problems have given properties.
-/

namespace PatternProse

/-- The answer is a value with the property `A` or a problem with the property `E`. -/
inductive Answers {ε α : Type} (E : ε → Prop) (A : α → Prop) : Except ε α → Prop
  | ok {a : α} : A a → Answers E A (.ok a)
  | error {e : ε} : E e → Answers E A (.error e)

namespace Answers

variable {ε α β : Type} {E : ε → Prop} {A : α → Prop} {B : β → Prop} {r : Except ε α}

theorem of_ok {a : α} (h : Answers E A r) (hr : r = .ok a) : A a := by
  subst hr
  cases h
  assumption

theorem of_error {e : ε} (h : Answers E A r) (hr : r = .error e) : E e := by
  subst hr
  cases h
  assumption

/-- Nothing is said about an answer. -/
theorem any : Answers (fun _ => True) (fun _ => True) r := by
  cases r with
  | ok => exact .ok trivial
  | error => exact .error trivial

theorem bind {f : α → Except ε β} (h : Answers E A r) (hf : ∀ a, A a → Answers E B (f a)) :
    Answers E B (r >>= f) := by
  cases h with
  | ok ha => exact hf _ ha
  | error he => exact .error he

end Answers

end PatternProse
