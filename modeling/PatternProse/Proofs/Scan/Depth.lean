import Mathlib.Data.List.Chain
import PatternProse.Proofs.Scan.Descent

/-!
# Depths of fragments

The depth of a fragment follows from the fragment before it and from the closing parentheses
between the two, as by a counter that never goes below zero. Levels that are left open and
parentheses that close nothing change it in no other way.

## Main definitions

* `Follows` — how a fragment comes after another one.

The main statement is `depth_explainPattern`, about the scan with open levels as about the one by
recursive descent.
-/

namespace PatternProse

/-- The fragment `g` of a source comes right after `f` and `n` closing parentheses. -/
structure Follows (source : String) (f g : Fragment) (n : Nat) : Prop where
  start_eq : g.span.start = f.span.stop + n
  /-- There is nothing between the fragments but the closing parentheses. -/
  slice?_gap : (⟨f.span.stop, g.span.start⟩ : Span).slice? source =
    some (String.ofList (List.replicate n ')'))
  depth_eq : g.depth = f.depth + (if f.kind.isContainer then 1 else 0) - n

/-- A fragment can be deeper than the one before it by one level only, and only right after an
opener. -/
theorem Follows.depth_lt {source : String} {f g : Fragment} {n : Nat} (h : Follows source f g n)
    (hlt : f.depth < g.depth) : f.kind.isContainer = true ∧ n = 0 ∧ g.depth = f.depth + 1 := by
  have hdepth := h.depth_eq
  split at hdepth
  · next hkind => exact ⟨hkind, by omega, by omega⟩
  · omega

theorem utf8Length_replicate_close (n : Nat) : utf8Length (List.replicate n ')') = n := by
  induction n with
  | zero => rfl
  | succ n ih =>
    rw [List.replicate_succ, utf8Length_cons, ih, utf8Size_closingParenthesis, Nat.add_comm]

namespace Layout

variable {offset depth : Nat} {cs : List Char} {f : Fragment} {fs : List Fragment}

/-- The first fragment stands behind some closing parentheses, each of which closes a level as
long as there is one. -/
theorem exists_first (h : Layout offset depth cs (f :: fs)) : ∃ n text after,
    cs = List.replicate n ')' ++ (text ++ after) ∧
      f.span = ⟨offset + n, offset + n + utf8Length text⟩ ∧ f.depth = depth - n ∧
      Layout f.span.stop (f.depth + f.kind.levels) after fs := by
  generalize hfs : f :: fs = gs at h
  induction h with
  | done => cases hfs
  | close _ ih =>
    obtain ⟨n, text, after, rfl, hspan, hdepth, hrest⟩ := ih hfs
    refine ⟨n + 1, text, after, rfl, ?_, ?_, hrest⟩
    · rw [hspan, Nat.add_assoc, Nat.add_comm 1 n]
    · omega
  | @fragment offset text cs g gs htext _ hspan hrest =>
    cases hfs
    exact ⟨0, text, cs, rfl, hspan, rfl, hrest⟩

theorem isChain {source : String} {before : List Char} (h : Layout (utf8Length before) depth cs fs)
    (hsource : source.toList = before ++ cs) :
    fs.IsChain fun f g => ∃ n, Follows source f g n := by
  induction fs generalizing before depth cs with
  | nil => exact .nil
  | cons f fs ih =>
    obtain ⟨n, text, after, rfl, hspan, -, hrest⟩ := h.exists_first
    have hsource' : source.toList = (before ++ (List.replicate n ')' ++ text)) ++ after := by
      rw [hsource, List.append_assoc, List.append_assoc]
    have hstop : f.span.stop = utf8Length (before ++ (List.replicate n ')' ++ text)) := by
      rw [hspan, utf8Length_append, utf8Length_append, utf8Length_replicate_close, Nat.add_assoc]
    rw [hstop] at hrest
    have hchain := ih hrest hsource'
    cases fs with
    | nil => exact .singleton f
    | cons g fs =>
      obtain ⟨m, text', after', hafter, hspan', hdepth', -⟩ := hrest.exists_first
      refine List.isChain_cons_cons.2 ⟨⟨m, ?_, ?_, hdepth'⟩, hchain⟩
      · rw [hspan', hstop]
      · rw [hafter] at hsource'
        have hgap := Span.slice?_of_toList_eq hsource'
        rw [utf8Length_replicate_close] at hgap
        rwa [hspan', hstop]

end Layout

/-- In the scan by recursive descent, which is the one with open levels, the first fragment has
depth zero and the depth of each further one follows from the one before. -/
theorem depth_explainPattern (pattern : String) :
    descend pattern = explainPattern pattern ∧
      (∀ f ∈ (explainPattern pattern).head?, f.depth = 0) ∧
      (explainPattern pattern).IsChain fun f g => ∃ n, Follows pattern f g n ∧
        (f.depth < g.depth → f.kind.isContainer = true ∧ n = 0 ∧ g.depth = f.depth + 1) := by
  have layout := layout_explainPattern pattern
  refine ⟨descend_eq_explainPattern pattern, ?_, ?_⟩
  · intro f hf
    obtain ⟨fs, hfs⟩ := List.head?_eq_some_iff.1 hf
    rw [hfs] at layout
    obtain ⟨n, -, -, -, -, hdepth, -⟩ := layout.exists_first
    omega
  · have hsource : pattern.toList = [] ++ pattern.toList := rfl
    have hchain := @Layout.isChain 0 _ _ pattern [] layout hsource
    refine hchain.imp ?_
    rintro f g ⟨n, h⟩
    exact ⟨n, h, h.depth_lt⟩

end PatternProse
