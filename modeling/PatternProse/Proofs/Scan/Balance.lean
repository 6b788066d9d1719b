import PatternProse.Proofs.Scan.Layout

/-!
# Balanced scans

In a balanced scan every closing parenthesis closes a level and no level is left open. What shows
the structure of such a pattern are its openers and quantifiers with their depths, which can be
read off the tokens with one counter.

## Main definitions

* `Balanced` — tokens that are scanned in this way.
* `outline` — the fragments that show the structure of a pattern, each by its text and depth.
* `outline?` — the outline of tokens, if they are balanced.

The main statements are `balanced_of_outline?` and `outline_of_outline?`.
-/

namespace PatternProse

/-- Scanned with some levels open, the tokens close these and all they open themselves, and no
closing parenthesis is met outside of all levels. -/
structure Balanced (ls : Levels) (ts : List Token) : Prop where
  depth_close_pos : ∀ before after, ts = before ++ .close :: after →
    0 < (before.foldl Levels.after ls).depth
  depth_end : (ts.foldl Levels.after ls).depth = 0

theorem Balanced.cons {ls : Levels} {t : Token} {ts : List Token} (h : Balanced (ls.after t) ts)
    (ht : t = .close → 0 < ls.depth) : Balanced ls (t :: ts) where
  depth_close_pos := by
    intro before after heq
    cases before with
    | nil =>
      rw [List.nil_append, List.cons.injEq] at heq
      exact ht heq.1
    | cons u before =>
      rw [List.cons_append, List.cons.injEq] at heq
      obtain ⟨rfl, rfl⟩ := heq
      exact h.depth_close_pos before after rfl
  depth_end := h.depth_end

/-- The openers and quantifiers of a pattern, each by its text and depth. -/
def outline (fs : List Fragment) : List (String × Nat) :=
  (fs.filter fun f => f.kind.isContainer || f.kind == .quantifier).map fun f =>
    (f.sourceText, f.depth)

/-- The openers and quantifiers among some tokens, each by its text and depth, provided that
every closing parenthesis closes a level and no level is left open. -/
def outline? (depth : Nat) : List Token → Option (List (String × Nat))
  | [] => if depth = 0 then some [] else none
  | .close :: ts => if depth = 0 then none else outline? (depth - 1) ts
  | .opener o :: ts =>
    (outline? (depth + 1) ts).map ((String.ofList (Token.opener o).text, depth) :: ·)
  | .quantifier token lazy :: ts =>
    (outline? depth ts).map ((String.ofList (Token.quantifier token lazy).text, depth) :: ·)
  | _ :: ts => outline? depth ts

theorem outline?_cons_of_explain? {t : Token} {item : Option (List Char)} {kind : FragmentKind}
    {sentence : String} (h : t.explain? item = some (kind, sentence)) (depth : Nat)
    (ts : List Token) :
    outline? depth (t :: ts) = (outline? (depth + kind.levels) ts).map fun o =>
      if kind.isContainer || kind == .quantifier then (String.ofList t.text, depth) :: o
      else o := by
  have hid : ∀ o : Option (List (String × Nat)), o = o.map fun o => o := fun o => by simp
  cases t with
  | close => cases h
  | opener k => cases h; cases k <;> rfl
  | quantifier token lazy => cases h; rfl
  | characterSet negated => cases negated <;> (cases h; exact hid _)
  | _ => cases h; exact hid _

theorem outline?_close_cons {depth : Nat} {ts : List Token} {o : List (String × Nat)}
    (h : outline? depth (.close :: ts) = some o) :
    0 < depth ∧ outline? (depth - 1) ts = some o := by
  rw [outline?] at h
  split at h
  · cases h
  · next hdepth => exact ⟨Nat.pos_of_ne_zero hdepth, h⟩

theorem balanced_of_outline? {ls : Levels} {ts : List Token} {o : List (String × Nat)}
    (h : outline? ls.depth ts = some o) : Balanced ls ts := by
  induction ts generalizing ls o with
  | nil =>
    refine ⟨?_, ?_⟩
    · intro before after heq
      simp at heq
    · rw [outline?] at h
      split at h
      · assumption
      · cases h
  | cons t ts ih =>
    cases hexplain : t.explain? ls.item with
    | none =>
      obtain rfl := Token.eq_close_of_explain? hexplain
      obtain ⟨hpos, h⟩ := outline?_close_cons h
      rw [← Levels.depth_close] at h
      have htail : Balanced (ls.after .close) ts := ih h
      exact htail.cons fun _ => hpos
    | some fragment =>
      rw [outline?_cons_of_explain? hexplain, ← Levels.depth_after hexplain] at h
      obtain ⟨o, ho, -⟩ := Option.map_eq_some_iff.1 h
      refine (ih ho).cons ?_
      rintro rfl
      cases hexplain

/-- The fragments of balanced tokens have the outline of the tokens. -/
theorem outline_of_outline? {ls : Levels} {ts : List Token} {o : List (String × Nat)}
    (h : outline? ls.depth ts = some o) (offset : Nat) :
    outline (fragmentsFrom ls offset ts) = o := by
  induction ts generalizing ls offset o with
  | nil =>
    rw [outline?] at h
    split at h <;> cases h
    rfl
  | cons t ts ih =>
    cases hexplain : t.explain? ls.item with
    | none =>
      obtain rfl := Token.eq_close_of_explain? hexplain
      obtain ⟨-, h⟩ := outline?_close_cons h
      rw [← Levels.depth_close] at h
      rw [fragmentsFrom_close_cons]
      exact ih h (offset + 1)
    | some fragment =>
      rw [outline?_cons_of_explain? hexplain, ← Levels.depth_after hexplain] at h
      obtain ⟨o, ho, rfl⟩ := Option.map_eq_some_iff.1 h
      rw [fragmentsFrom_cons_of_explain? hexplain, ← ih ho (offset + utf8Length t.text), outline,
        List.filter_cons]
      split <;> rfl

end PatternProse
