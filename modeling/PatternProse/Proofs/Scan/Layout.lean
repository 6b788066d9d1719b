import PatternProse.Proofs.Span
import PatternProse.Scan

/-!
# How fragments lie in a pattern

The fragments of a pattern follow one another in its text, with nothing but closing parentheses
between them, and their depth is that of a counter: it goes up after an opener and down, but not
below zero, at each closing parenthesis. `Layout` says so for the text from some offset on.

## Main definitions

* `Layout` — fragments that lie in some characters in this way.

The main statement is `layout_explainPattern`: the fragments of a pattern lie in it.
-/

namespace PatternProse

theorem utf8Size_closingParenthesis : ')'.utf8Size = 1 := rfl

namespace FragmentKind

/-- The number of levels that a fragment of this kind opens. -/
def levels (k : FragmentKind) : Nat := if k.isContainer then 1 else 0

end FragmentKind

/-- The fragments that lie in the characters from a byte offset on, where `depth` levels are
open. -/
inductive Layout : (offset depth : Nat) → List Char → List Fragment → Prop
  | done (offset depth : Nat) : Layout offset depth [] []
  | close {offset depth : Nat} {cs : List Char} {fs : List Fragment} :
    Layout (offset + 1) (depth - 1) cs fs → Layout offset depth (')' :: cs) fs
  | fragment {offset : Nat} {text cs : List Char} {f : Fragment} {fs : List Fragment} :
    text ≠ [] → f.sourceText = String.ofList text →
    f.span = ⟨offset, offset + utf8Length text⟩ →
    Layout f.span.stop (f.depth + f.kind.levels) cs fs →
    Layout offset f.depth (text ++ cs) (f :: fs)

namespace Token

theorem eq_close_of_explain? {t : Token} {item : Option (List Char)}
    (h : t.explain? item = none) : t = close := by
  cases t with
  | close => rfl
  | characterSet negated => cases negated <;> cases h
  | _ => cases h

theorem text_ne_nil_of_mem_list {cs : List Char} {t : Token} (h : t ∈ list cs) : t.text ≠ [] := by
  fun_induction list cs with
  | case1 => cases h
  | case2 c cs ih =>
    rcases List.mem_cons.1 h with rfl | h
    · exact text_scan_ne_nil c cs
    · exact ih h

end Token

namespace Levels

@[simp] theorem depth_close (ls : Levels) : ls.close.depth = ls.depth - 1 := by
  obtain ⟨item, outer⟩ := ls
  cases outer <;> rfl

/-- After a token that becomes a fragment its text is the item, on the level that it opens nothing
yet. -/
theorem after_of_explain? (ls : Levels) {t : Token} {item : Option (List Char)}
    {kind : FragmentKind} {sentence : String} (h : t.explain? item = some (kind, sentence)) :
    ls.after t =
      if kind.isContainer then ⟨none, some t.text :: ls.outer⟩ else ⟨some t.text, ls.outer⟩ := by
  cases t with
  | close => cases h
  | opener o => cases h; cases o <;> rfl
  | characterSet negated => cases negated <;> (cases h; rfl)
  | _ => cases h; rfl

/-- A token that becomes a fragment opens as many levels as the kind of the fragment says. -/
theorem depth_after {ls : Levels} {t : Token} {item : Option (List Char)} {kind : FragmentKind}
    {sentence : String} (h : t.explain? item = some (kind, sentence)) :
    (ls.after t).depth = ls.depth + kind.levels := by
  rw [after_of_explain? ls h, FragmentKind.levels]
  split <;> rfl

end Levels

theorem fragmentsFrom_close_cons (ls : Levels) (offset : Nat) (ts : List Token) :
    fragmentsFrom ls offset (.close :: ts) = fragmentsFrom ls.close (offset + 1) ts := rfl

theorem fragmentsFrom_cons_of_explain? {ls : Levels} {t : Token} {kind : FragmentKind}
    {sentence : String} (h : t.explain? ls.item = some (kind, sentence)) (offset : Nat)
    (ts : List Token) :
    fragmentsFrom ls offset (t :: ts) =
      ⟨String.ofList t.text, sentence, ls.depth, ⟨offset, offset + utf8Length t.text⟩, kind⟩ ::
        fragmentsFrom (ls.after t) (offset + utf8Length t.text) ts := by
  simp only [fragmentsFrom, h]

theorem layout_fragmentsFrom (ls : Levels) (offset : Nat) {ts : List Token}
    (h : ∀ t ∈ ts, t.text ≠ []) :
    Layout offset ls.depth (ts.flatMap Token.text) (fragmentsFrom ls offset ts) := by
  induction ts generalizing ls offset with
  | nil => exact .done offset ls.depth
  | cons t ts ih =>
    have htext : t.text ≠ [] := h t List.mem_cons_self
    have hrest := ih (ls.after t) (offset + utf8Length t.text) fun t ht => h t (.tail _ ht)
    simp only [fragmentsFrom, List.flatMap_cons]
    split
    · next kind sentence hexplain =>
      rw [Levels.depth_after hexplain] at hrest
      exact .fragment (f := ⟨_, sentence, ls.depth, _, kind⟩) htext rfl rfl hrest
    · next hexplain =>
      obtain rfl := Token.eq_close_of_explain? hexplain
      refine .close ?_
      rw [← Levels.depth_close]
      exact hrest

/-- The fragments of a pattern lie in it from its start on, with no level open. -/
theorem layout_explainPattern (pattern : String) :
    Layout 0 0 pattern.toList (explainPattern pattern) := by
  have h := layout_fragmentsFrom {} 0 fun t (ht : t ∈ Token.list pattern.toList) =>
    Token.text_ne_nil_of_mem_list ht
  rwa [Token.flatMap_text_list] at h

namespace Layout

variable {offset depth : Nat} {cs : List Char} {fs : List Fragment}

theorem le_start (h : Layout offset depth cs fs) : ∀ f ∈ fs, offset ≤ f.span.start := by
  induction h with
  | done => intro f hf; cases hf
  | close _ ih => exact fun f hf => Nat.le_of_succ_le (ih f hf)
  | fragment _ _ hspan _ ih =>
    intro f hf
    rcases List.mem_cons.1 hf with rfl | hf
    · simp [hspan]
    · have := ih f hf
      simp only [hspan] at this
      omega

/-- Each fragment covers some of the characters, and its text is these. -/
theorem exists_split (h : Layout offset depth cs fs) : ∀ f ∈ fs, ∃ before text after,
    cs = before ++ (text ++ after) ∧ text ≠ [] ∧ f.sourceText = String.ofList text ∧
      f.span = ⟨offset + utf8Length before, offset + utf8Length before + utf8Length text⟩ := by
  induction h with
  | done => intro f hf; cases hf
  | close _ ih =>
    intro f hf
    obtain ⟨before, text, after, rfl, htext, hsource, hspan⟩ := ih f hf
    refine ⟨')' :: before, text, after, rfl, htext, hsource, ?_⟩
    rw [hspan, utf8Length_cons, utf8Size_closingParenthesis, ← Nat.add_assoc]
  | @fragment offset text cs g fs htext hsource hspan _ ih =>
    intro f hf
    rcases List.mem_cons.1 hf with rfl | hf
    · exact ⟨[], text, cs, rfl, htext, hsource, hspan⟩
    · obtain ⟨before, text', after, rfl, htext', hsource', hspan'⟩ := ih f hf
      refine ⟨text ++ before, text', after, by simp, htext', hsource', ?_⟩
      rw [hspan', hspan, utf8Length_append, ← Nat.add_assoc]

theorem pairwise (h : Layout offset depth cs fs) :
    fs.Pairwise fun f g => f.span.start < g.span.start ∧ f.span.stop ≤ g.span.start := by
  induction h with
  | done => exact .nil
  | close _ ih => exact ih
  | fragment htext _ hspan hrest ih =>
    refine .cons (fun g hg => ?_) ih
    have hstop := hrest.le_start g hg
    have := utf8Length_pos htext
    refine ⟨?_, hstop⟩
    simp only [hspan] at hstop ⊢
    omega

/-- A byte that no fragment covers is that of a closing parenthesis. -/
theorem exists_close_of_uncovered (h : Layout offset depth cs fs) {i : Nat} (hle : offset ≤ i)
    (hlt : i < offset + utf8Length cs)
    (hi : ∀ f ∈ fs, ¬ (f.span.start ≤ i ∧ i < f.span.stop)) :
    ∃ before after, cs = before ++ ')' :: after ∧ i = offset + utf8Length before := by
  induction h with
  | done => exact absurd hlt (Nat.not_lt.2 hle)
  | @close offset depth cs fs _ ih =>
    simp only [utf8Length_cons, utf8Size_closingParenthesis] at hlt
    rcases Nat.eq_or_lt_of_le hle with rfl | hlt'
    · exact ⟨[], cs, rfl, rfl⟩
    · obtain ⟨before, after, rfl, rfl⟩ := ih hlt' (by omega) hi
      refine ⟨')' :: before, after, rfl, ?_⟩
      rw [utf8Length_cons, utf8Size_closingParenthesis, ← Nat.add_assoc]
  | @fragment offset text cs f fs _ _ hspan _ ih =>
    have hf := hi f List.mem_cons_self
    simp only [hspan, utf8Length_append] at hf hlt ih
    obtain ⟨before, after, rfl, rfl⟩ :=
      ih (by omega) (by omega) fun g hg => hi g (.tail _ hg)
    exact ⟨text ++ before, after, by simp, by rw [utf8Length_append, ← Nat.add_assoc]⟩

end Layout

end PatternProse
