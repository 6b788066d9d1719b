import PatternProse.Json.Tree

/-!
# Trees without places

Where the parts of a text stand shows in the problems that a reader reports, and in nothing else:
what is read from a tree is read from the tree without its places too.

## Main definitions

* `Json.Tree.unplaced` — a tree without its places and the causes of its problems.
-/

namespace PatternProse.Json

/-- An answer without the problem there may be. -/
def unplaced {α : Type} : Except (Problem SyntaxProblem) α → Except (Problem SyntaxProblem) α
  | .ok a => .ok a
  | .error _ => fail .endInValue 0

mutual

/-- A tree without its places and the causes of its problems. -/
def Tree.unplaced : Tree → Tree
  | .scalar taken _ => .scalar (Json.unplaced taken) 0
  | .array _ items => .array 0 items.unplaced
  | .object _ members => .object 0 members.unplaced
  | .broken _ => .broken (.uniform ⟨.endInValue, 0⟩)

/-- Items without their places. -/
def Items.unplaced : Items → Items
  | .done _ => .done 0
  | .broken _ => .broken (.uniform ⟨.endInValue, 0⟩)
  | .more _ value _ rest => .more 0 value.unplaced 0 rest.unplaced

/-- Members without their places. -/
def Members.unplaced : Members → Members
  | .done _ => .done 0
  | .broken _ => .broken (.uniform ⟨.endInValue, 0⟩)
  | .more name _ value rest => .more (Json.unplaced name) 0 value.unplaced rest.unplaced

end

/-! ### Answers -/

theorem toOption_bind {ε α β : Type} (r : Except ε α) (f : α → Except ε β) :
    (r >>= f).toOption = r.toOption.bind fun a => (f a).toOption := by
  cases r <;> rfl

@[simp] theorem toOption_unplaced {α : Type} (r : Except (Problem SyntaxProblem) α) :
    (unplaced r).toOption = r.toOption := by
  cases r <;> rfl

theorem toOption_descend (depth start : Nat) :
    (descend depth start).toOption = if depth + 1 < depthLimit then some (depth + 1) else none := by
  rw [descend]
  split <;> rfl

/-! ### Readers -/

mutual

/-- A value is skipped or not wherever it stands. -/
theorem toOption_skip_unplaced : (t : Tree) → t.unplaced.skip.toOption = t.skip.toOption
  | .scalar _ _ => rfl
  | .array _ items => toOption_skip_unplaced_items items
  | .object _ members => toOption_skip_unplaced_members members
  | .broken _ => rfl

theorem toOption_skip_unplaced_items : (items : Items) →
    items.unplaced.skip.toOption = items.skip.toOption
  | .done _ => rfl
  | .broken _ => rfl
  | .more _ value _ rest => by
    rw [Items.unplaced, Items.skip, Items.skip, toOption_bind, toOption_bind,
      toOption_skip_unplaced value, toOption_skip_unplaced_items rest]

theorem toOption_skip_unplaced_members : (members : Members) →
    members.unplaced.skip.toOption = members.skip.toOption
  | .done _ => rfl
  | .broken _ => rfl
  | .more _ _ value rest => by
    rw [Members.unplaced, Members.skip, Members.skip, toOption_bind, toOption_bind,
      toOption_skip_unplaced value, toOption_skip_unplaced_members rest]

end

mutual

/-- A value is taken in as the same one wherever it stands. -/
theorem toOption_take_unplaced (depth : Nat) : (t : Tree) →
    (t.unplaced.take depth).toOption = (t.take depth).toOption
  | .scalar taken _ => by cases taken <;> rfl
  | .array start items => by
    simp only [Tree.unplaced, Tree.take, toOption_bind, toOption_descend,
      toOption_take_unplaced_items _ items]
  | .object start members => by
    simp only [Tree.unplaced, Tree.take, toOption_bind, toOption_descend,
      toOption_take_unplaced_members _ _ members]
  | .broken _ => rfl

theorem toOption_take_unplaced_items (depth : Nat) : (items : Items) →
    (items.unplaced.take depth).toOption = (items.take depth).toOption
  | .done _ => rfl
  | .broken _ => rfl
  | .more _ value _ rest => by
    simp only [Items.unplaced, Items.take, toOption_bind, toOption_take_unplaced depth value,
      toOption_take_unplaced_items depth rest]

theorem toOption_take_unplaced_members (depth : Nat) (taken : List (String × Json)) :
    (members : Members) →
      (members.unplaced.take depth taken).toOption = (members.take depth taken).toOption
  | .done _ => rfl
  | .broken _ => rfl
  | .more name _ value rest => by
    simp only [Members.unplaced, Members.take, toOption_bind, toOption_unplaced,
      toOption_take_unplaced depth value, toOption_take_unplaced_members depth _ rest]

end

end PatternProse.Json
