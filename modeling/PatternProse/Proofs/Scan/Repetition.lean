import Mathlib.Algebra.Ring.Nat
import Mathlib.Data.List.Chain
import PatternProse.Proofs.Regex.Stepping
import PatternProse.Proofs.Scan.Grammar

/-!
# Quantifiers of valid patterns

The scan of a valid pattern finds as many quantifiers as there are quantified terms, but for three
things that it sees in another way: braces after `\u` or `\p` that are part of the escape, a brace
that stands for itself without the flag `u`, and `\x` without two digits after it, which takes in
two more characters when it is read. The first two are scanned as quantifiers.

## Main definitions

* `Token.IsCounted` — tokens with no quantifiers but those that are read as such.
* `ParseState.quantifiedCount` — the number of quantified terms read so far.

The main statement is `countP_quantifier_explainPattern`.
-/

namespace PatternProse

open Regex

namespace Token

/-- Whether a token becomes a fragment for a quantifier. -/
def isQuantifier : Token → Bool
  | quantifier .. => true
  | _ => false

/-- Every quantifier among tokens has counts, and none of them are the braces of a code point. -/
structure IsCounted (ts : List Token) : Prop where
  counts : ∀ token lazy, .quantifier token lazy ∈ ts → (counts? token).isSome = true
  codePoints : ts.IsChain fun s t => s = .escape (some 'u') →
    ∀ token lazy, t = .quantifier token lazy → bracedCodePoint? token.tail = none

namespace IsCounted

variable {t : Token} {ts : List Token}

theorem tail (h : IsCounted (t :: ts)) : IsCounted ts :=
  ⟨fun token lazy ht => h.counts token lazy (.tail _ ht), h.codePoints.tail⟩

theorem cons_literal (h : IsCounted ts) (run : List Char) : IsCounted (.literal run :: ts) where
  counts := by
    intro token lazy ht
    rcases List.mem_cons.1 ht with ht | ht
    · cases ht
    · exact h.counts token lazy ht
  codePoints := by
    refine h.codePoints.cons ?_
    intro _ _ hs
    cases hs

end IsCounted

end Token

open Token (list scanContents IsCounted)

/-! ### Texts without quantifiers -/

/-- The second text has as many quantifiers as the first, provided that those of the first are all
read as such. -/
def KeepsCount (cs rest : List Char) : Prop :=
  IsCounted (list cs) →
    IsCounted (list rest) ∧
      (list cs).countP Token.isQuantifier = (list rest).countP Token.isQuantifier

namespace KeepsCount

variable {cs ds rest : List Char}

theorem trans (h : KeepsCount cs ds) (hrest : KeepsCount ds rest) : KeepsCount cs rest := by
  intro hcs
  obtain ⟨hds, hcount⟩ := h hcs
  obtain ⟨hrest, hcount'⟩ := hrest hds
  exact ⟨hrest, hcount.trans hcount'⟩

/-- A token that is no quantifier can be left out. -/
theorem of_list {t : Token} (hlist : list cs = t :: list rest) (ht : t.isQuantifier = false) :
    KeepsCount cs rest := by
  intro hcs
  rw [hlist] at hcs ⊢
  exact ⟨hcs.tail, List.countP_cons_of_neg (by simp [ht])⟩

theorem ordinary {c : Char} (h : Token.isMetacharacter c = false) (cs : List Char) :
    KeepsCount (c :: cs) cs := by
  obtain ⟨run, hlist⟩ | ⟨run, run', ts, hlist, hlist'⟩ := Token.list_ordinary h cs
  · exact of_list hlist rfl
  · intro hcs
    rw [hlist] at hcs ⊢
    rw [hlist']
    exact ⟨hcs.tail.cons_literal run', rfl⟩

theorem ordinary_symm {c : Char} (h : Token.isMetacharacter c = false) (cs : List Char) :
    KeepsCount cs (c :: cs) := by
  obtain ⟨run, hlist⟩ | ⟨run, run', ts, hlist, hlist'⟩ := Token.list_ordinary h cs
  · intro hcs
    rw [hlist]
    exact ⟨hcs.cons_literal run, (List.countP_cons_of_neg (by simp [Token.isQuantifier])).symm⟩
  · intro hcs
    rw [hlist'] at hcs ⊢
    rw [hlist]
    exact ⟨hcs.tail.cons_literal run, rfl⟩

theorem simple {c : Char} (h : isSimple c = true) (cs : List Char) : KeepsCount (c :: cs) cs := by
  cases hmeta : Token.isMetacharacter c with
  | false => exact ordinary hmeta cs
  | true =>
    have hc : c = ']' ∨ c = '}' ∨ c = '.' ∨ c = '^' ∨ c = '$' ∨ c = '|' := by
      have hmem := Token.mem_metacharacters hmeta
      simp only [isSimple, List.contains_eq_mem, List.mem_cons, List.not_mem_nil, or_false,
        Bool.not_eq_true', decide_eq_false_iff_not, not_or] at h hmem
      grind
    rcases hc with rfl | rfl | rfl | rfl | rfl | rfl <;>
      exact of_list (Token.list_cons_of_scan rfl) rfl

theorem escape (c : Char) (cs : List Char) : KeepsCount ('\\' :: c :: cs) cs :=
  of_list (Token.list_cons_of_scan rfl) rfl

/-- The braces of an escape are none of the quantifiers that are read as such. -/
theorem payload {c : Char} {body : List Char} (h : IsPayload c body) (cs : List Char) :
    KeepsCount ('\\' :: c :: '{' :: (body ++ '}' :: cs)) cs := by
  intro hcounted
  have hescape : list ('\\' :: c :: '{' :: (body ++ '}' :: cs)) =
      .escape (some c) :: list ('{' :: (body ++ '}' :: cs)) := Token.list_cons_of_scan rfl
  have hbraces := Token.scan_braces (notMem_of_ordinary h.ordinary rfl) cs
  rw [scanLazy_eq] at hbraces
  rw [hescape, Token.list_cons_of_scan hbraces] at hcounted
  have hpoint := (List.isChain_cons_cons.1 hcounted.codePoints).1
  have hcounts := hcounted.counts _ _ (.tail _ (.head _))
  obtain ⟨rfl, hsome⟩ | hnone := h.codePoint_or_property
  · have hnone : bracedCodePoint? (body ++ ['}']) = none := hpoint rfl _ _ rfl
    rw [hnone] at hsome
    cases hsome
  · change (bracedCounts? (body ++ ['}'])).isSome = true at hcounts
    rw [hnone] at hcounts
    cases hcounts

theorem passes (h : Passes cs rest) : KeepsCount cs rest := by
  induction h with
  | refl cs => exact fun hcs => ⟨hcs, rfl⟩
  | char h _ ih => exact (simple (isSimple_of_isPlain h) _).trans ih
  | escape c _ ih => exact (escape c _).trans ih
  | control _ ih => exact ((escape 'c' _).trans (ordinary_symm rfl _)).trans ih
  | payload h _ ih => exact (payload h _).trans ih

theorem span_append_of_dropWhile {p : Char → Bool} {cs rest : List Char} {d : Char}
    (h : cs.dropWhile p = d :: rest) (ds : List Char) :
    (cs ++ ds).takeWhile p = cs.takeWhile p ∧ (cs ++ ds).dropWhile p = d :: (rest ++ ds) := by
  have hd : p d = false := by
    have hstop := List.head?_dropWhile_not p cs
    simpa [h] using hstop
  have hcs := List.takeWhile_append_dropWhile (p := p) (l := cs)
  have hfront : ∀ c ∈ cs.takeWhile p, p c = true := fun c hc => List.mem_takeWhile_imp hc
  rw [← hcs, h, List.append_assoc, List.takeWhile_append_of_pos hfront,
    List.dropWhile_append_of_pos hfront, List.takeWhile_append_of_pos hfront]
  simp [hd]

/-- Counts do not depend on what follows them. -/
theorem bracedCounts?_append {cs rest : List Char} {r : Nat × Option Nat}
    (h : bracedCounts? cs = some (r, rest)) (ds : List Char) :
    bracedCounts? (cs ++ ds) = some (r, rest ++ ds) := by
  simp only [bracedCounts?] at h ⊢
  split at h
  · cases h
  · next hlow =>
    split at h
    · next hbrace =>
      obtain ⟨htake, hdrop⟩ := span_append_of_dropWhile hbrace ds
      cases h
      simp only [htake, hdrop, if_neg hlow]
    · next cs' hcomma =>
      obtain ⟨htake, hdrop⟩ := span_append_of_dropWhile hcomma ds
      split at h
      · next hbrace =>
        obtain ⟨htake', hdrop'⟩ := span_append_of_dropWhile hbrace ds
        cases h
        simp only [htake, hdrop, if_neg hlow, htake', hdrop']
      · cases h
    · cases h

/-- A brace that stands for itself is none of the quantifiers that are read as such. -/
theorem brace (h : bracedCounts? cs = none) : KeepsCount ('{' :: cs) cs := by
  intro hcounted
  obtain ⟨body, rest, rfl, hbody, hscan⟩ | ⟨hbody, hscan⟩ := Token.scan_brace cs
  · rw [scanLazy_eq] at hscan
    rw [Token.list_cons_of_scan hscan] at hcounted
    have hcounts : (bracedCounts? (body ++ ['}'])).isSome = true :=
      hcounted.counts _ _ (.head _)
    obtain ⟨⟨r, rest'⟩, hsome⟩ := Option.isSome_iff_exists.1 hcounts
    have happend := bracedCounts?_append hsome rest
    rw [List.append_assoc, List.singleton_append, h] at happend
    cases happend
  · rw [Token.list_cons_of_scan hscan] at hcounted
    have hcounts : (bracedCounts? cs).isSome = true := hcounted.counts _ _ (.head _)
    rw [h] at hcounts
    cases hcounts

theorem atom {unicode : Bool} (h : Atom unicode cs rest) : KeepsCount cs rest := by
  cases h with
  | char h => exact simple h _
  | escape h => exact passes h
  | @bracket cs _ h =>
    obtain ⟨hkind, -, hrest⟩ := Token.scan_bracket cs
    have hlist : list ('[' :: cs) = (Token.scan '[' cs).1 :: list rest := by
      rw [list, hrest, h]
    refine of_list hlist ?_
    cases hscan : (Token.scan '[' cs).1 with
    | quantifier => rw [hscan] at hkind; cases hkind
    | _ => rfl
  | brace _ h => exact brace h

end KeepsCount

/-- A quantifier is counted. -/
theorem countP_of_isQuantified {cs rest : List Char} (h : IsQuantified cs rest)
    (hcounted : IsCounted (list cs)) :
    IsCounted (list rest) ∧
      (list cs).countP Token.isQuantifier = (list rest).countP Token.isQuantifier + 1 := by
  obtain ⟨token, lazy, -, hlist⟩ := h.exists_list
  rw [hlist] at hcounted ⊢
  exact ⟨hcounted.tail, List.countP_cons_of_pos rfl⟩

/-! ### Quantified terms -/

namespace Regex

namespace Node

theorem quantifiedCount_sequence (ns : List Node) :
    (sequence ns).quantifiedCount = (ns.map quantifiedCount).sum := by
  fun_induction sequence ns with
  | case1 => rfl
  | case2 n => simp
  | case3 n ns _ ih => rw [quantifiedCount, ih, List.map_cons, List.sum_cons]

theorem quantifiedCount_choice (n : Node) (ns : List Node) :
    (choice n ns).quantifiedCount = n.quantifiedCount + (ns.map quantifiedCount).sum := by
  fun_induction choice n ns with
  | case1 => rfl
  | case2 n m ns ih => rw [quantifiedCount, ih, List.map_cons, List.sum_cons]

end Node

/-- The number of quantified terms among the terms and alternatives of a level. -/
def levelCount (terms alternatives : List Node) : Nat :=
  (terms.map Node.quantifiedCount).sum + (alternatives.map Node.quantifiedCount).sum

namespace ParseState

/-- The number of quantified terms that have been read. -/
def quantifiedCount (st : ParseState) : Nat :=
  levelCount st.terms st.alternatives +
    (st.frames.map fun f => levelCount f.terms f.alternatives).sum

theorem quantifiedCount_body (st : ParseState) :
    st.body.quantifiedCount = levelCount st.terms st.alternatives := by
  obtain ⟨n, ns, heq⟩ := List.exists_cons_of_ne_nil
    (List.reverse_ne_nil_iff.2 (List.cons_ne_nil (Node.sequence st.terms.reverse) st.alternatives))
  have hbody : st.body = .choice n ns := by
    simp only [body, heq]
  have hsum := congrArg (fun ns => (ns.map Node.quantifiedCount).sum) heq
  simp only [List.map_reverse, List.sum_reverse, List.map_cons, List.sum_cons,
    Node.quantifiedCount_sequence] at hsum
  rw [hbody, Node.quantifiedCount_choice, ← hsum, levelCount]

theorem quantifiedCount_push (st : ParseState) (n : Node) :
    (st.push n).quantifiedCount = st.quantifiedCount + n.quantifiedCount := by
  simp [quantifiedCount, push, levelCount]
  omega

theorem quantifiedCount_nextAlternative (st : ParseState) :
    st.nextAlternative.quantifiedCount = st.quantifiedCount := by
  simp [quantifiedCount, nextAlternative, levelCount, Node.quantifiedCount_sequence]

theorem quantifiedCount_enter (st : ParseState) (kind : GroupKind) (flags : Flags)
    (names : List (Option String)) :
    (st.enter kind flags names).quantifiedCount = st.quantifiedCount := by
  simp [quantifiedCount, enter, levelCount]

/-- A group is as a term what its body was as a level. -/
theorem quantifiedCount_close {st : ParseState} {f : Frame} {frames : List Frame}
    (h : st.frames = f :: frames) (names : List (Option String)) :
    (⟨f.flags, f.alternatives, f.terms, names, frames⟩ : ParseState).quantifiedCount +
      (f.kind.node st.body).quantifiedCount = st.quantifiedCount := by
  have hnode : (f.kind.node st.body).quantifiedCount = st.body.quantifiedCount := by
    cases f.kind <;> rfl
  rw [hnode, quantifiedCount_body, quantifiedCount, quantifiedCount, h]
  simp
  omega

/-! ### Steps -/

/-- With a term the quantifier behind it moves from the text to the state. -/
theorem count_of_term {st st' : ParseState} {allowed : Bool} {groups : GroupRange} {n : Node}
    {cs rest : List Char} (h : st.term allowed groups n cs = .ok (st', rest))
    (hcounted : IsCounted (list cs)) :
    IsCounted (list rest) ∧ st'.quantifiedCount + (list rest).countP Token.isQuantifier =
      st.quantifiedCount + n.quantifiedCount + (list cs).countP Token.isQuantifier := by
  obtain ⟨m, rfl, ⟨rfl, rfl⟩ | ⟨hm, hquantified⟩⟩ := term_cases h
  · rw [quantifiedCount_push]
    exact ⟨hcounted, rfl⟩
  · obtain ⟨hrest, hcount⟩ := countP_of_isQuantified hquantified hcounted
    rw [quantifiedCount_push]
    exact ⟨hrest, by omega⟩

/-- A step moves quantifiers from the text to the state and loses none. -/
theorem count_of_step {scope : Scope} {st st' : ParseState} {c : Char} {cs rest : List Char}
    (h : step scope st c cs = .ok (st', rest))
    (hhex : st.flags.unicode = true ∨ hexComplete (c :: cs) = true)
    (hcounted : IsCounted (list (c :: cs))) :
    IsCounted (list rest) ∧ st'.quantifiedCount + (list rest).countP Token.isQuantifier =
      st.quantifiedCount + (list (c :: cs)).countP Token.isQuantifier := by
  obtain ⟨rfl, rfl, rfl⟩ | ⟨rfl, hopen⟩ | ⟨rfl, hclose⟩ |
    ⟨n, allowed, groups, mid, hn, hatom, hterm⟩ := step_cases h hhex
  · obtain ⟨hrest, hcount⟩ := KeepsCount.simple rfl rest hcounted
    rw [quantifiedCount_nextAlternative, hcount]
    exact ⟨hrest, rfl⟩
  · obtain ⟨hpasses, kind, flags, names, rfl, -, -⟩ := openGroup_cases hopen
    have hlist : list ('(' :: cs) = .opener (Opener.scan cs).1 :: list (Opener.scan cs).2 :=
      Token.list_cons_of_scan rfl
    obtain ⟨hrest, hcount⟩ :=
      ((KeepsCount.of_list hlist rfl).trans (.passes hpasses)) hcounted
    rw [quantifiedCount_enter, hcount]
    exact ⟨hrest, rfl⟩
  · obtain ⟨f, frames, allowed, groups, hframes, hterm⟩ := closeGroup_cases hclose
    have hlist : list (')' :: cs) = .close :: list cs := Token.list_cons_of_scan rfl
    obtain ⟨hcs, hcount⟩ := KeepsCount.of_list hlist rfl hcounted
    rw [hcount, ← quantifiedCount_close hframes st.names]
    exact count_of_term hterm hcs
  · obtain ⟨hmid, hcount⟩ := KeepsCount.atom hatom hcounted
    obtain ⟨hrest, hcount'⟩ := count_of_term hterm hmid
    exact ⟨hrest, by omega⟩

/-- At the end all quantifiers have been moved to the regular expression. -/
theorem quantifiedCount_of_finish {scope : Scope} {st : ParseState} {cs : List Char} {re : Regex}
    (h : finish scope st cs = .ok re) (huniform : st.IsUniform)
    (hhex : st.flags.unicode = true ∨ hexComplete cs = true) (hcounted : IsCounted (list cs)) :
    re.node.quantifiedCount =
      st.quantifiedCount + (list cs).countP Token.isQuantifier := by
  fun_induction finish scope st cs with
  | case1 st hframes =>
    cases h
    rw [quantifiedCount_body, quantifiedCount, List.isEmpty_iff.1 hframes, list]
    rfl
  | case2 => cases h
  | case3 st c cs st' rest hstep ih =>
    obtain ⟨huniform', hunicode⟩ := huniform.step hstep hhex
    obtain ⟨hrest, hcount⟩ := count_of_step hstep hhex hcounted
    rw [← hcount]
    refine ih h huniform' ?_ hrest
    rw [hunicode]
    exact hhex.imp_right (hexComplete_of_step hstep)
  | case4 => cases h

end ParseState

end Regex

theorem countP_quantifier_fragmentsFrom (ls : Levels) (offset : Nat) (ts : List Token) :
    (fragmentsFrom ls offset ts).countP (·.kind == .quantifier) =
      ts.countP Token.isQuantifier := by
  induction ts generalizing ls offset with
  | nil => rfl
  | cons t ts ih =>
    cases hexplain : t.explain? ls.item with
    | none =>
      obtain rfl := Token.eq_close_of_explain? hexplain
      rw [fragmentsFrom_close_cons, ih, List.countP_cons_of_neg (by simp [Token.isQuantifier])]
    | some r =>
      have hkind : (r.1 == .quantifier) = t.isQuantifier := by
        cases t with
        | close => cases hexplain
        | opener o => cases hexplain; cases o <;> rfl
        | characterSet negated => cases negated <;> (cases hexplain; rfl)
        | _ => cases hexplain; rfl
      rw [fragmentsFrom_cons_of_explain? hexplain, List.countP_cons, List.countP_cons, ih, hkind]

/-- The scan of a valid pattern finds as many quantifiers as there are quantified terms. The
pattern has the flag `u` or each `\x` of it stands before two digits, and its braces are counts
other than those of a code point. -/
theorem countP_quantifier_explainPattern {pattern flags : String} {re : Regex}
    (h : compile pattern flags = .ok re)
    (hhex : Flag.unicode.isIn flags = true ∨ hexComplete pattern.toList = true)
    (hcounted : IsCounted (list pattern.toList)) :
    (explainPattern pattern).countP (·.kind == .quantifier) = re.node.quantifiedCount := by
  obtain ⟨groups, hfinish⟩ := exists_finish_of_compile h
  have huniform := ParseState.isUniform_start (Flags.ofString flags)
  have hcount := ParseState.quantifiedCount_of_finish hfinish huniform hhex hcounted
  rw [explainPattern, countP_quantifier_fragmentsFrom, hcount]
  exact (Nat.zero_add _).symm

theorem countP_quantifier_explainPattern_lazy :
    ∃ re, compile "(a\x7b2\x7d|\\u0062+?)*" "" = .ok re ∧
      hexComplete "(a\x7b2\x7d|\\u0062+?)*".toList = true ∧
      IsCounted (list "(a\x7b2\x7d|\\u0062+?)*".toList) ∧ re.node.quantifiedCount = 3 ∧
      (explainPattern "(a\x7b2\x7d|\\u0062+?)*").countP (·.kind == .quantifier) =
        re.node.quantifiedCount := by
  have hlist : list "(a\x7b2\x7d|\\u0062+?)*".toList =
      [.opener .capture, .literal ['a'], .quantifier ['\x7b', '2', '\x7d'] false, .bar,
        .escape (some 'u'), .literal ['0', '0', '6', '2'], .quantifier ['+'] true, .close,
        .quantifier ['*'] false] := by decide +kernel
  have hcounted : IsCounted (list "(a\x7b2\x7d|\\u0062+?)*".toList) := by
    rw [hlist]
    refine ⟨fun token lazy h => ?_, by simp⟩
    simp only [List.mem_cons, List.not_mem_nil, reduceCtorEq, false_or, or_false,
      Token.quantifier.injEq] at h
    rcases h with ⟨rfl, -⟩ | ⟨rfl, -⟩ | ⟨rfl, -⟩ <;> decide
  have hhex : hexComplete "(a\x7b2\x7d|\\u0062+?)*".toList = true := by decide
  have hvalid : isValid "(a\x7b2\x7d|\\u0062+?)*" "" = true := by decide +kernel
  cases hre : compile "(a\x7b2\x7d|\\u0062+?)*" "" with
  | error e =>
    rw [isValid, validate, hre] at hvalid
    cases hvalid
  | ok re =>
    have hcount := countP_quantifier_explainPattern hre (.inr hhex) hcounted
    have hthree :
        (explainPattern "(a\x7b2\x7d|\\u0062+?)*").countP (·.kind == .quantifier) = 3 := by
      decide +kernel
    exact ⟨re, rfl, hhex, hcounted, hcount.symm.trans hthree, hcount⟩

end PatternProse
