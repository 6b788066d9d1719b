import PatternProse.Proofs.Scan.Balance
import PatternProse.Proofs.Scan.Tokens

/-!
# Skeletons

Of all tokens of a pattern only parentheses make up its levels. A text that holds none of them can
be left out of a pattern without a change to the marks that parentheses leave, wherever it stops:
behind a token or within a run of ordinary characters.

## Main definitions

* `Mark` — what a token means to the levels of a pattern.
* `skeleton` — the marks of a pattern.
* `IsBlind` — ways to mark tokens that leave out all that have no part in the levels.

The main statements are `balanced_of_closes`, which says that the marks of tokens tell whether they
are balanced, and `IsBlind.marks_soft`, `IsBlind.marks_brace` and those next to them, which say what
can be left out.
-/

namespace PatternProse

/-- What a token means to the levels of a pattern. -/
inductive Mark
  | opening
  | closing
  /-- Braces between which there is what opens or closes a level or hides what does. -/
  | braces
  deriving Repr, DecidableEq

/-- Whether a character opens or closes a level, or keeps others from doing so. -/
def isStructural (c : Char) : Bool := ['(', ')', '[', '\\'].contains c

/-- The mark of a token, if it has one. -/
def Token.mark? : Token → Option Mark
  | opener _ => some .opening
  | close => some .closing
  | quantifier token _ => if token.any isStructural then some .braces else none
  | _ => none

/-- The marks of a pattern. -/
def skeleton (cs : List Char) : List Mark := (Token.list cs).filterMap Token.mark?

/-- Whether marks close all levels, of which some are open before them, and no others. -/
def closes : Nat → List Mark → Bool
  | depth, [] => depth == 0
  | depth, .opening :: ms => closes (depth + 1) ms
  | 0, .closing :: _ => false
  | depth + 1, .closing :: ms => closes depth ms
  | depth, .braces :: ms => closes depth ms

theorem closes_opening (depth : Nat) (ms : List Mark) :
    closes depth (.opening :: ms) = closes (depth + 1) ms := by
  cases depth <;> rfl

theorem closes_braces (depth : Nat) (ms : List Mark) :
    closes depth (.braces :: ms) = closes depth ms := by
  cases depth <;> rfl

/-- Tokens are balanced if their marks close all levels. -/
theorem balanced_of_closes {ls : Levels} {ts : List Token}
    (h : closes ls.depth (ts.filterMap Token.mark?) = true) : Balanced ls ts := by
  induction ts generalizing ls with
  | nil =>
    refine ⟨?_, by simpa [closes] using h⟩
    intro before after heq
    simp at heq
  | cons t ts ih =>
    cases t with
    | opener o => exact (ih h : Balanced (ls.after (.opener o)) ts).cons (by simp)
    | close =>
      rw [List.filterMap_cons_some (show Token.close.mark? = some .closing from rfl)] at h
      cases hdepth : ls.depth with
      | zero => rw [hdepth, closes] at h; cases h
      | succ depth =>
        rw [hdepth, closes] at h
        have htail : Balanced (ls.after .close) ts := by
          refine ih ?_
          rw [Levels.after, Levels.depth_close, hdepth]
          exact h
        exact htail.cons fun _ => by omega
    | quantifier token lazy =>
      have htail : closes ls.depth (ts.filterMap Token.mark?) = true := by
        rw [List.filterMap_cons, Token.mark?] at h
        cases hany : token.any isStructural with
        | true =>
          rw [hany, if_pos rfl, closes_braces] at h
          exact h
        | false =>
          rw [hany] at h
          exact h
      exact (ih htail : Balanced (ls.after (.quantifier token lazy)) ts).cons (by simp)
    | literal run => exact (ih h : Balanced (ls.after (.literal run)) ts).cons (by simp)
    | characterSet negated contents closed =>
      exact (ih h : Balanced (ls.after (.characterSet negated contents closed)) ts).cons (by simp)
    | escape escaped => exact (ih h : Balanced (ls.after (.escape escaped)) ts).cons (by simp)
    | startAnchor => exact (ih h : Balanced (ls.after .startAnchor) ts).cons (by simp)
    | endAnchor => exact (ih h : Balanced (ls.after .endAnchor) ts).cons (by simp)
    | anyCharacter => exact (ih h : Balanced (ls.after .anyCharacter) ts).cons (by simp)
    | bar => exact (ih h : Balanced (ls.after .bar) ts).cons (by simp)

/-! ### Tokens without marks -/

/-- Whether a token has no part in the levels of a pattern. -/
def Token.isFlat : Token → Bool
  | opener _ | close => false
  | quantifier token _ => !token.any isStructural
  | _ => true

/-- The marks that tokens leave, each of which is seen with the tokens behind it. -/
def marks {μ : Type} (mark : Token → List Token → Option μ) : List Token → List μ
  | [] => []
  | t :: ts => (mark t ts).toList ++ marks mark ts

/-- A way to mark tokens is blind to those that have no part in the levels. -/
def IsBlind {μ : Type} (mark : Token → List Token → Option μ) : Prop :=
  ∀ t ts, t.isFlat = true → mark t ts = none

theorem skeleton_eq_marks (cs : List Char) :
    skeleton cs = marks (fun t _ => t.mark?) (Token.list cs) := by
  rw [skeleton]
  induction Token.list cs with
  | nil => rfl
  | cons t ts ih =>
    rw [List.filterMap_cons, marks, ← ih]
    cases t.mark? <;> rfl

theorem isBlind_mark? : IsBlind fun t _ => t.mark? := by
  intro t ts h
  cases t with
  | opener o => cases h
  | close => cases h
  | quantifier token lazy => simp_all [Token.isFlat, Token.mark?]
  | _ => rfl

/-- Whether a character leaves no mark and starts no token that covers others. -/
def isSoft (c : Char) : Bool := !(['(', ')', '[', '\\', '{'].contains c)

/-- The characters of a kind are soft if the few that are not soft are of another kind. -/
theorem isSoft_of {p : Char → Bool} (h : (['(', ')', '[', '\\', '{'].all (!p ·)) = true) {c : Char}
    (hc : p c = true) : isSoft c = true := by
  rw [isSoft, contains_eq_false_of h hc]
  rfl

theorem isSoft_of_not_isStructural {c : Char} (h : isStructural c = false) (hbrace : c ≠ '{') :
    isSoft c = true := by
  simp_all [isSoft, isStructural]

theorem isFlat_scanLazy (token cs : List Char) :
    (Token.scanLazy token cs).1.isFlat = !token.any isStructural := by
  unfold Token.scanLazy
  split <;> rfl

namespace IsBlind

open Token (list scan scanLazy scanContents)

variable {μ : Type} {mark : Token → List Token → Option μ} (hmark : IsBlind mark)
include hmark

/-- A token that has no part in the levels can be left out. -/
theorem marks_scan {c : Char} {cs : List Char} (h : (scan c cs).1.isFlat = true) :
    marks mark (list (c :: cs)) = marks mark (list (scan c cs).2) := by
  rw [list, marks, hmark _ _ h]
  rfl

theorem marks_dropWhile_ordinary (cs : List Char) :
    marks mark (list (cs.dropWhile (!Token.isMetacharacter ·))) = marks mark (list cs) := by
  cases cs with
  | nil => rfl
  | cons c cs =>
    cases h : Token.isMetacharacter c with
    | true => rw [List.dropWhile_cons_of_neg (by simp [h])]
    | false =>
      have hscan := Token.scan_ordinary h cs
      rw [List.dropWhile_cons_of_pos (by simp [h]), hmark.marks_scan (by rw [hscan]; rfl), hscan]

/-- A question mark leaves no mark, whether or not the token before it takes it in. -/
theorem marks_question (cs : List Char) :
    marks mark (list ('?' :: cs)) = marks mark (list cs) := by
  have hscan : scan '?' cs = scanLazy ['?'] cs := rfl
  rw [hmark.marks_scan (by rw [hscan, isFlat_scanLazy]; rfl), hscan]
  match cs with
  | [] => rfl
  | c :: cs =>
    by_cases hc : c = '?'
    · subst hc
      exact (marks_question cs).symm
    · rw [Token.scanLazy_of_head?_ne (by simpa using hc)]

theorem marks_scanLazy (token cs : List Char) :
    marks mark (list (scanLazy token cs).2) = marks mark (list cs) := by
  unfold scanLazy
  split
  · exact (hmark.marks_question _).symm
  · rfl

/-- A soft character leaves no mark. -/
theorem marks_soft {c : Char} (h : isSoft c = true) (cs : List Char) :
    marks mark (list (c :: cs)) = marks mark (list cs) := by
  cases c, cs using Token.scan_cases with
  | ordinary c cs hc =>
    have hscan := Token.scan_ordinary hc cs
    rw [hmark.marks_scan (by rw [hscan]; rfl), hscan]
    exact hmark.marks_dropWhile_ordinary cs
  | escape | bracket | opener | brace => cases h
  | quantifier c cs hc hscan =>
    have hflat : (scan c cs).1.isFlat = true := by
      rw [hscan, isFlat_scanLazy]
      rcases hc with rfl | rfl | rfl <;> rfl
    rw [hmark.marks_scan hflat, hscan, hmark.marks_scanLazy]
  | single c cs hc =>
    simp only [List.mem_cons, List.not_mem_nil, or_false] at hc
    rcases hc with rfl | rfl | rfl | rfl | rfl | rfl | rfl
    · cases h
    all_goals exact hmark.marks_scan rfl

theorem marks_escape (c : Char) (cs : List Char) :
    marks mark (list ('\\' :: c :: cs)) = marks mark (list cs) :=
  hmark.marks_scan rfl

/-- A class leaves no mark, whatever stands in it. -/
theorem marks_bracket (cs : List Char) :
    marks mark (list ('[' :: cs)) = marks mark (list (scanContents cs).2.2) := by
  have hscan : (scan '[' cs).1.isFlat = true ∧ (scan '[' cs).2 = (scanContents cs).2.2 := by
    simp only [scan]
    split <;> exact ⟨rfl, rfl⟩
  rw [hmark.marks_scan hscan.1, hscan.2]

/-! ### Braces -/

/-- Braces leave no mark if there is nothing structural between them. -/
theorem marks_braces {body : List Char} (hclose : '}' ∉ body) (h : body.any isStructural = false)
    (cs : List Char) : marks mark (list ('{' :: (body ++ '}' :: cs))) = marks mark (list cs) := by
  have hscan := Token.scan_braces hclose cs
  have hflat : (scan '{' (body ++ '}' :: cs)).1.isFlat = true := by
    rw [hscan, isFlat_scanLazy]
    simp [h, isStructural]
  rw [hmark.marks_scan hflat, hscan, hmark.marks_scanLazy]

/-- Braces that are not closed run to the end. -/
theorem marks_openBrace {body : List Char} (hclose : '}' ∉ body)
    (h : body.any isStructural = false) : marks mark (list ('{' :: body)) = [] := by
  have hscan := Token.scan_openBrace hclose
  have hflat : (scan '{' body).1.isFlat = true := by
    rw [hscan, Token.isFlat]
    simp [h, isStructural]
  rw [hmark.marks_scan hflat, hscan, list, marks]

/-- Between braces there may be other opening braces, if nothing is structural. -/
theorem marks_append_closeBrace {body : List Char} (hclose : '}' ∉ body)
    (h : body.any isStructural = false) (cs : List Char) :
    marks mark (list (body ++ '}' :: cs)) = marks mark (list cs) := by
  induction body with
  | nil => exact hmark.marks_soft rfl cs
  | cons c body ih =>
    rw [List.any_cons, Bool.or_eq_false_iff] at h
    have hbody : '}' ∉ body := fun hmem => hclose (.tail _ hmem)
    by_cases hc : c = '{'
    · subst hc
      exact hmark.marks_braces hbody h.2 cs
    · rw [List.cons_append, hmark.marks_soft (isSoft_of_not_isStructural h.1 hc), ih hbody h.2]

theorem marks_eq_nil {body : List Char} (hclose : '}' ∉ body)
    (h : body.any isStructural = false) : marks mark (list body) = [] := by
  induction body with
  | nil => rw [list, marks]
  | cons c body ih =>
    rw [List.any_cons, Bool.or_eq_false_iff] at h
    have hbody : '}' ∉ body := fun hmem => hclose (.tail _ hmem)
    by_cases hc : c = '{'
    · subst hc
      exact hmark.marks_openBrace hbody h.2
    · rw [hmark.marks_soft (isSoft_of_not_isStructural h.1 hc), ih hbody h.2]

/-- Where braces hide nothing, it does not matter whether the first of them is read as one that
opens a quantifier. -/
theorem marks_brace {cs : List Char} (h : (scan '{' cs).1.isFlat = true) :
    marks mark (list ('{' :: cs)) = marks mark (list cs) := by
  obtain ⟨body, rest, rfl, hbody, hscan⟩ | ⟨hbody, hscan⟩ := Token.scan_brace cs
  · have hclean : body.any isStructural = false := by
      rw [hscan, isFlat_scanLazy] at h
      simp_all
    rw [hmark.marks_braces hbody hclean, hmark.marks_append_closeBrace hbody hclean]
  · have hclean : cs.any isStructural = false := by
      rw [hscan, Token.isFlat] at h
      simp_all
    rw [hmark.marks_openBrace hbody hclean, hmark.marks_eq_nil hbody hclean]

end IsBlind

/-! ### Skeletons -/

theorem skeleton_nil : skeleton [] = [] := by
  rw [skeleton, Token.list, List.filterMap_nil]

theorem skeleton_opener (cs : List Char) :
    skeleton ('(' :: cs) = .opening :: skeleton (Opener.scan cs).2 := by
  rw [skeleton, Token.list]
  rfl

theorem skeleton_close (cs : List Char) : skeleton (')' :: cs) = .closing :: skeleton cs := by
  rw [skeleton, Token.list]
  rfl

/-- Braces that are not marked hide nothing. -/
theorem isFlat_brace {cs : List Char} (h : .braces ∉ skeleton ('{' :: cs)) :
    (Token.scan '{' cs).1.isFlat = true := by
  have hquantifier : ∃ token lazy, (Token.scan '{' cs).1 = .quantifier token lazy := by
    obtain ⟨body, rest, -, -, hscan⟩ | ⟨-, hscan⟩ := Token.scan_brace cs
    · rw [hscan]
      unfold Token.scanLazy
      split <;> exact ⟨_, _, rfl⟩
    · exact ⟨_, _, congrArg Prod.fst hscan⟩
  obtain ⟨token, lazy, hscan⟩ := hquantifier
  rw [skeleton, Token.list, hscan] at h
  rw [hscan, Token.isFlat, Bool.not_eq_true', ← Bool.not_eq_true]
  intro hany
  simp [Token.mark?, hany] at h

end PatternProse
