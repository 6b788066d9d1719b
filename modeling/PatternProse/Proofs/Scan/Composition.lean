import PatternProse.Proofs.Scan.Balance
import PatternProse.Proofs.Scan.Grammar

/-!
# Composing scans at parentheses

A pattern that is complete in itself is scanned in the same way wherever a closing parenthesis
follows it: inside of a group only its place and its depth change, and what comes after the
parenthesis is scanned as if it stood alone. The search for the end of a group name, which may go
through the rest of the pattern, makes no difference, for no name goes on past a parenthesis.

## Main definitions

* `IsComplete` — a pattern that closes and finishes all that it starts, and nothing else.
* `Fragment.moved` — a fragment in another place.

The main statement is `explainPattern_compose`.
-/

namespace PatternProse

/-- Whether a token is finished. One that is not runs to the end of the pattern. -/
def Token.isFinished : Token → Bool
  | characterSet _ _ closed => closed
  | escape escaped => escaped.isSome
  | quantifier token _ => token.head? != some '{' || token.contains '}'
  | _ => true

/-- The scan of the pattern meets no closing parenthesis outside of all levels, leaves no level
open and does not end within a token. -/
structure IsComplete (pattern : String) : Prop where
  balanced : Balanced {} (Token.list pattern.toList)
  finished : ∀ t ∈ (Token.list pattern.toList).getLast?, t.isFinished = true

/-- A fragment some levels further in and some bytes further on. -/
def Fragment.moved (levels bytes : Nat) (f : Fragment) : Fragment :=
  { f with depth := f.depth + levels, span := ⟨f.span.start + bytes, f.span.stop + bytes⟩ }

/-! ### One token -/

theorem OpenerMark.close_notMem {kind : FragmentKind} {mark : List Char}
    (h : OpenerMark kind mark) : ')' ∉ mark := by
  cases h with
  | lookaround hmark =>
    simp only [List.mem_cons, List.not_mem_nil, or_false] at hmark
    rcases hmark with rfl | rfl | rfl | rfl <;> decide
  | nonCapturing => decide
  | named _ hname =>
    have := Opener.notMem_name hname (c := ')') (by decide)
    simp [this]

/-- An opener with a closing parenthesis somewhere behind it does not depend on what comes after
this parenthesis. -/
theorem Opener.scan_append {cs : List Char} (h : ')' ∈ (scan cs).2) (ds : List Char) :
    scan (cs ++ ds) = ((scan cs).1, (scan cs).2 ++ ds) := by
  by_cases hquestion : cs.head? = some '?'
  · obtain ⟨cs, rfl⟩ := List.head?_eq_some_iff.1 hquestion
    by_cases hmark : ∃ kind mark rest, OpenerMark kind mark ∧ cs = mark ++ rest
    · obtain ⟨kind, mark, rest, hmark, rfl⟩ := hmark
      obtain ⟨o, hscan, -⟩ := exists_scan_mark hmark
      rw [List.cons_append, List.append_assoc, hscan, hscan]
    · have hspecial := (exists_mark_or_scan cs).resolve_left hmark
      rw [hspecial] at h ⊢
      refine (exists_mark_or_scan (cs ++ ds)).resolve_left ?_
      rintro ⟨kind, mark, rest, hopener, heq⟩
      -- a mark that goes on behind `cs` would take in the parenthesis
      obtain ⟨more, rfl, -⟩ | ⟨more, hcs, -⟩ := List.append_eq_append_iff.1 heq
      · exact hopener.close_notMem (List.mem_append_left more h)
      · exact hmark ⟨kind, mark, more, hopener, hcs⟩
  · have hne : cs ≠ [] := by
      rintro rfl
      cases h
    have hfollows : (cs ++ ds).head? ≠ some '?' := by
      rwa [List.head?_append_of_ne_nil _ hne]
    rw [scan_of_head?_ne hquestion, scan_of_head?_ne hfollows]

namespace Token

theorem scanContents_append_of_closed {cs : List Char} (h : (scanContents cs).2.1 = true)
    (ds : List Char) :
    scanContents (cs ++ ds) = ((scanContents cs).1, true, (scanContents cs).2.2 ++ ds) := by
  obtain ⟨-, hitems⟩ | ⟨hopen, -⟩ := exists_items cs
  · have hcs := append_scanContents cs
    rw [h, if_pos rfl, List.append_assoc] at hcs
    have happend : cs ++ ds =
        (scanContents cs).1 ++ ']' :: ((scanContents cs).2.2 ++ ds) := by
      conv_lhs => rw [← hcs, List.append_assoc]
      rfl
    rw [happend, scanContents_append hitems]
    simp [scanContents]
  · rw [h] at hopen
    cases hopen

/-- A run that ends before a character of another kind ends there whatever follows. -/
theorem span_append_cons {p : Char → Bool} {d : Char} (hd : p d = false) (cs ds : List Char) :
    (cs ++ d :: ds).takeWhile p = cs.takeWhile p ∧
      (cs ++ d :: ds).dropWhile p = cs.dropWhile p ++ d :: ds := by
  induction cs with
  | nil => simp [hd]
  | cons c cs ih => cases hc : p c <;> simp [hc, ih]

theorem scanLazy_append_close (token cs ds : List Char) :
    scanLazy token (cs ++ ')' :: ds) =
      ((scanLazy token cs).1, (scanLazy token cs).2 ++ ')' :: ds) := by
  cases cs with
  | nil => rfl
  | cons c cs =>
    by_cases hc : c = '?'
    · rw [hc]
      rfl
    · have hhead : ∀ rest : List Char, (c :: rest).head? ≠ some '?' := by simpa using hc
      rw [List.cons_append, scanLazy_of_head?_ne (hhead _), scanLazy_of_head?_ne (hhead _)]
      rfl

theorem scan_negatedSet (cs : List Char) :
    scan '[' ('^' :: cs) =
      (characterSet true (scanContents cs).1 (scanContents cs).2.1, (scanContents cs).2.2) := rfl

theorem scan_set {cs : List Char} (h : cs.head? ≠ some '^') :
    scan '[' cs =
      (characterSet false (scanContents cs).1 (scanContents cs).2.1, (scanContents cs).2.2) := by
  simp only [scan]
  split
  · exact absurd rfl h
  · rfl

theorem scan_bracket_append {cs : List Char} (h : (scan '[' cs).1.isFinished = true)
    (ds : List Char) :
    scan '[' (cs ++ ds) = ((scan '[' cs).1, (scan '[' cs).2 ++ ds) := by
  by_cases hnegated : cs.head? = some '^'
  · obtain ⟨cs, rfl⟩ := List.head?_eq_some_iff.1 hnegated
    have hclosed : (scanContents cs).2.1 = true := h
    simp only [List.cons_append, scan_negatedSet, scanContents_append_of_closed hclosed, hclosed]
  · rw [scan_set hnegated] at h ⊢
    have hclosed : (scanContents cs).2.1 = true := h
    have hne : cs ≠ [] := by
      rintro rfl
      cases hclosed
    have hfollows : (cs ++ ds).head? ≠ some '^' := by
      rwa [List.head?_append_of_ne_nil _ hne]
    rw [scan_set hfollows, scanContents_append_of_closed hclosed, hclosed]

theorem scan_brace_append_close {cs : List Char} (h : (scan '{' cs).1.isFinished = true)
    (ds : List Char) :
    scan '{' (cs ++ ')' :: ds) = ((scan '{' cs).1, (scan '{' cs).2 ++ ')' :: ds) := by
  obtain ⟨body, rest, rfl, hbody, hscan⟩ | ⟨hopen, hscan⟩ := scan_brace cs
  · rw [List.append_assoc, List.cons_append, scan_braces hbody, scan_braces hbody]
    exact scanLazy_append_close _ rest ds
  · rw [hscan] at h
    simp [isFinished, hopen] at h

/-- A finished token is scanned alike before a closing parenthesis. Only an opener looks further
than that, and stops at the parenthesis that closes its level. -/
theorem scan_append_close {c : Char} {cs : List Char}
    (hfinished : (scan c cs).1.isFinished = true)
    (hopener : ∀ o, (scan c cs).1 = opener o → ')' ∈ (scan c cs).2) (ds : List Char) :
    scan c (cs ++ ')' :: ds) = ((scan c cs).1, (scan c cs).2 ++ ')' :: ds) := by
  cases c, cs using scan_cases with
  | ordinary c cs hc =>
    have hclose : (!isMetacharacter ')') = false := by decide
    obtain ⟨htake, hdrop⟩ := span_append_cons (p := (!isMetacharacter ·)) hclose cs ds
    rw [scan_ordinary hc, scan_ordinary hc, htake, hdrop]
  | escape cs =>
    cases cs with
    | nil => cases hfinished
    | cons d cs => rfl
  | bracket cs => exact scan_bracket_append hfinished _
  | opener cs =>
    have hscan := Opener.scan_append (hopener _ rfl) (')' :: ds)
    simp only [scan, hscan]
  | quantifier c cs hc hscan =>
    rw [hscan, hscan]
    exact scanLazy_append_close _ cs ds
  | brace cs => exact scan_brace_append_close hfinished ds
  | single c cs hc =>
    simp only [List.mem_cons, List.not_mem_nil, or_false] at hc
    rcases hc with rfl | rfl | rfl | rfl | rfl | rfl | rfl <;> rfl

theorem isFinished_scanLazy (token cs : List Char) :
    (scanLazy token cs).1.isFinished = (token.head? != some '{' || token.contains '}') := by
  unfold scanLazy
  split <;> rfl

theorem isFinished_bracket {cs : List Char} (h : (scan '[' cs).2 ≠ []) :
    (scan '[' cs).1.isFinished = true := by
  have hclosed {cs : List Char} (h : (scanContents cs).2.2 ≠ []) : (scanContents cs).2.1 = true :=
    (exists_items cs).elim And.left fun hopen => absurd hopen.2.1 h
  by_cases hnegated : cs.head? = some '^'
  · obtain ⟨cs, rfl⟩ := List.head?_eq_some_iff.1 hnegated
    exact hclosed h
  · rw [scan_set hnegated] at h ⊢
    exact hclosed h

theorem isFinished_brace {cs : List Char} (h : (scan '{' cs).2 ≠ []) :
    (scan '{' cs).1.isFinished = true := by
  obtain ⟨body, rest, rfl, -, hscan⟩ | ⟨-, hscan⟩ := scan_brace cs
  · rw [hscan, isFinished_scanLazy]
    simp
  · rw [hscan] at h
    exact absurd rfl h

/-- A token with something behind it is finished. -/
theorem isFinished_scan {c : Char} {cs : List Char} (h : (scan c cs).2 ≠ []) :
    (scan c cs).1.isFinished = true := by
  cases c, cs using scan_cases with
  | ordinary c cs hc =>
    rw [scan_ordinary hc]
    rfl
  | escape cs =>
    cases cs with
    | nil => exact absurd rfl h
    | cons d cs => rfl
  | bracket cs => exact isFinished_bracket h
  | opener cs => rfl
  | quantifier c cs hc hscan =>
    rw [hscan, isFinished_scanLazy]
    rcases hc with rfl | rfl | rfl <;> rfl
  | brace cs => exact isFinished_brace h
  | single c cs hc =>
    simp only [List.mem_cons, List.not_mem_nil, or_false] at hc
    rcases hc with rfl | rfl | rfl | rfl | rfl | rfl | rfl <;> rfl

end Token

/-! ### Tokens -/

theorem Balanced.tail {ls : Levels} {t : Token} {ts : List Token} (h : Balanced ls (t :: ts)) :
    Balanced (ls.after t) ts where
  depth_close_pos before after heq := h.depth_close_pos (t :: before) after (by rw [heq]; rfl)
  depth_end := h.depth_end

theorem Levels.depth_le_foldl_after {ts : List Token} (h : .close ∉ ts) (ls : Levels) :
    ls.depth ≤ (ts.foldl Levels.after ls).depth := by
  induction ts generalizing ls with
  | nil => exact Nat.le_refl _
  | cons t ts ih =>
    rw [List.mem_cons, not_or] at h
    refine Nat.le_trans ?_ (ih h.2 (ls.after t))
    cases hexplain : t.explain? none with
    | none => exact absurd (Token.eq_close_of_explain? hexplain).symm h.1
    | some fragment => exact (Levels.depth_after hexplain).ge.trans' (Nat.le_add_right _ _)

/-- Levels that are open have to be closed. -/
theorem Balanced.close_mem {ls : Levels} {ts : List Token} (h : Balanced ls ts)
    (hpos : 0 < ls.depth) : .close ∈ ts := by
  by_contra hclose
  have hle := ls.depth_le_foldl_after hclose
  rw [h.depth_end] at hle
  omega

theorem Token.closeParenthesis_mem {cs : List Char} (h : .close ∈ list cs) : ')' ∈ cs := by
  rw [← flatMap_text_list cs]
  exact List.mem_flatMap.2 ⟨.close, h, List.mem_singleton.2 rfl⟩

/-- The tokens of a complete text are found in front of a closing parenthesis too, and what is
behind the parenthesis is scanned by itself. -/
theorem Token.list_append_close {ls : Levels} {cs : List Char} (hbalanced : Balanced ls (list cs))
    (hfinished : ∀ t ∈ (list cs).getLast?, t.isFinished = true) (ds : List Char) :
    list (cs ++ ')' :: ds) = list cs ++ .close :: list ds := by
  fun_induction list cs generalizing ls with
  | case1 => exact list_cons_of_scan rfl
  | case2 c cs ih =>
    have htoken : (scan c cs).1.isFinished = true := by
      cases hrest : (scan c cs).2 with
      | nil =>
        have hnil : list [] = [] := by rw [list]
        rw [hrest, hnil] at hfinished
        exact hfinished _ rfl
      | cons d rest => exact isFinished_scan (by simp [hrest])
    have hopener : ∀ o, (scan c cs).1 = opener o → ')' ∈ (scan c cs).2 := by
      intro o ho
      rw [ho] at hbalanced
      exact closeParenthesis_mem (hbalanced.tail.close_mem (Nat.succ_pos _))
    rw [List.cons_append, list_cons_of_scan (scan_append_close htoken hopener ds),
      ih hbalanced.tail ?_, List.cons_append]
    intro t ht
    refine hfinished t ?_
    rw [Option.mem_def] at ht ⊢
    rw [List.getLast?_cons, ht, Option.getD_some]

/-! ### Fragments -/

theorem Levels.close_of_depth_eq {ls : Levels} (h : ls.depth = 0) : ls.close = {} := by
  obtain ⟨item, outer⟩ := ls
  obtain rfl : outer = [] := List.eq_nil_of_length_eq_zero h
  rfl

theorem fragmentsFrom_append (ls : Levels) (offset : Nat) (ts us : List Token) :
    fragmentsFrom ls offset (ts ++ us) = fragmentsFrom ls offset ts ++
      fragmentsFrom (ts.foldl Levels.after ls) (offset + utf8Length (ts.flatMap Token.text)) us := by
  induction ts generalizing ls offset with
  | nil => rfl
  | cons t ts ih =>
    simp only [List.cons_append, fragmentsFrom, ih, List.foldl_cons, List.flatMap_cons,
      utf8Length_append, Nat.add_assoc]
    split <;> rfl

/-- Where the tokens start matters to the places of the fragments only. -/
theorem fragmentsFrom_add (ls : Levels) (offset bytes : Nat) (ts : List Token) :
    fragmentsFrom ls (offset + bytes) ts =
      (fragmentsFrom ls offset ts).map (Fragment.moved 0 bytes) := by
  induction ts generalizing ls offset with
  | nil => rfl
  | cons t ts ih =>
    have hstop : offset + bytes + utf8Length t.text = offset + utf8Length t.text + bytes :=
      Nat.add_right_comm _ _ _
    simp only [fragmentsFrom, hstop, ih]
    split <;> rfl

/-- The levels with one more around them, whose item is the text of its opener. -/
def Levels.within (around : List Char) (ls : Levels) : Levels :=
  ⟨ls.item, ls.outer ++ [some around]⟩

/-- Tokens that close only what is open do not get to know of a level around them. -/
theorem Levels.after_within {ls : Levels} {t : Token} (h : t = .close → 0 < ls.depth)
    (around : List Char) : (ls.within around).after t = (ls.after t).within around := by
  obtain ⟨item, outer⟩ := ls
  cases t with
  | close =>
    cases outer with
    | nil => exact absurd (h rfl) (Nat.lt_irrefl 0)
    | cons item outer => rfl
  | _ => rfl

theorem Balanced.close_pos {ls : Levels} {t : Token} {ts : List Token}
    (h : Balanced ls (t :: ts)) (ht : t = .close) : 0 < ls.depth :=
  h.depth_close_pos [] ts (congrArg (· :: ts) ht)

/-- In a group the same fragments are found, one level further in. -/
theorem fragmentsFrom_within {ls : Levels} {ts : List Token} (h : Balanced ls ts)
    (around : List Char) (offset : Nat) :
    fragmentsFrom (ls.within around) offset ts =
      (fragmentsFrom ls offset ts).map (Fragment.moved 1 0) := by
  induction ts generalizing ls offset with
  | nil => rfl
  | cons t ts ih =>
    have hdepth : (ls.within around).depth = ls.depth + 1 := List.length_append
    have hitem : (ls.within around).item = ls.item := rfl
    simp only [fragmentsFrom, Levels.after_within h.close_pos, ih h.tail, hdepth, hitem]
    split <;> rfl

/-- A complete pattern in a group is scanned as it is by itself, one level further in and behind
the opener, and behind a complete pattern and a closing parenthesis any pattern is scanned as it is
by itself. -/
theorem explainPattern_compose {p : String} (h : IsComplete p) (q : String) :
    explainPattern ("(?:" ++ p ++ ")") =
        ⟨"(?:", Opener.nonCapturing.sentence, 0, ⟨0, 3⟩, .group⟩ ::
          (explainPattern p).map (Fragment.moved 1 3) ∧
      explainPattern (p ++ ")" ++ q) =
        explainPattern p ++ (explainPattern q).map (Fragment.moved 0 (p.utf8ByteSize + 1)) := by
  have hlist (ds : List Char) := Token.list_append_close h.balanced h.finished ds
  constructor
  · have htext : ("(?:" ++ p ++ ")").toList = '(' :: '?' :: ':' :: (p.toList ++ [')']) := by
      simp
    have hnil : Token.list [] = [] := by rw [Token.list]
    have hinside : fragmentsFrom (Levels.within ['(', '?', ':'] {}) 3 (Token.list p.toList) =
        (explainPattern p).map (Fragment.moved 1 3) := by
      rw [fragmentsFrom_within h.balanced, ← Nat.zero_add 3, fragmentsFrom_add, List.map_map]
      rfl
    rw [explainPattern, htext, Token.list_nonCapturing, hlist, hnil,
      fragmentsFrom_cons_of_explain? rfl, fragmentsFrom_append, ← hinside]
    exact congrArg (_ :: ·) (List.append_nil _)
  · have htext : (p ++ ")" ++ q).toList = p.toList ++ ')' :: q.toList := by simp
    rw [explainPattern, htext, hlist, fragmentsFrom_append, fragmentsFrom_close_cons,
      Levels.close_of_depth_eq h.balanced.depth_end, Token.flatMap_text_list, utf8Length_toList,
      Nat.add_assoc, fragmentsFrom_add]
    rfl

theorem explainPattern_compose_braces :
    IsComplete "(?<a)[)]{2}" ∧
      explainPattern "(?:(?<a)[)]{2})" =
        ⟨"(?:", Opener.nonCapturing.sentence, 0, ⟨0, 3⟩, .group⟩ ::
          (explainPattern "(?<a)[)]{2}").map (Fragment.moved 1 3) ∧
      explainPattern "(?<a)[)]{2})b>?" =
        explainPattern "(?<a)[)]{2}" ++
          (explainPattern "b>?").map (Fragment.moved 0 12) := by
  have hlist : Token.list "(?<a)[)]{2}".toList =
      [.opener .special, .literal ['<', 'a'], .close, .characterSet false [')'] true,
        .quantifier ['{', '2', '}'] false] := by decide +kernel
  have hcomplete : IsComplete "(?<a)[)]{2}" := by
    constructor
    · rw [hlist]
      exact balanced_of_outline? (by decide : _ = some [("(?", 0), ("{2}", 0)])
    · rw [hlist]
      simp [Token.isFinished]
  exact ⟨hcomplete, explainPattern_compose hcomplete "b>?"⟩

end PatternProse
