import PatternProse.Proofs.Scan.Depth
import PatternProse.Proofs.Scan.Grammar

/-!
# Items of quantifiers

The sentence of a quantifier names the item that it repeats. The scan keeps an item on each open
level, but the fragments alone tell the same: the item is the fragment right before the quantifier,
unless this one stands further out, or a closing parenthesis between the two closes nothing.

## Main definitions

* `QuantifierText` — the texts of quantifiers, each with its token and whether it is lazy.
* `strays` — where the closing parentheses stand that close nothing.
* `repeatedItem` — how a quantifier names its item, told from the fragments before it.

The main statement is `explanation_quantifier`.
-/

namespace PatternProse

/-- The text of a quantifier, with its token and whether a mark of laziness follows the token. The
braces of a token run to the first closing one, or else to the end of the pattern with no mark
behind them. -/
inductive QuantifierText : (text token : List Char) → (lazy : Bool) → Prop
  | mark {c : Char} (lazy : Bool) : c = '*' ∨ c = '+' ∨ c = '?' →
    QuantifierText ([c] ++ if lazy then ['?'] else []) [c] lazy
  | braces {body : List Char} (lazy : Bool) : '}' ∉ body →
    QuantifierText ('{' :: body ++ ['}'] ++ if lazy then ['?'] else []) ('{' :: body ++ ['}']) lazy
  | openBrace {body : List Char} : '}' ∉ body → QuantifierText ('{' :: body) ('{' :: body) false

/-- The byte offsets of the closing parentheses among some tokens that are met with no level
open. -/
def straysFrom (ls : Levels) (offset : Nat) : List Token → List Nat
  | [] => []
  | t :: ts =>
    let rest := straysFrom (ls.after t) (offset + utf8Length t.text) ts
    if t = .close ∧ ls.depth = 0 then offset :: rest else rest

/-- The byte offsets of the closing parentheses of a pattern that are met with no level open. -/
def strays (pattern : String) : List Nat := straysFrom {} 0 (Token.list pattern.toList)

/-- How the sentence of the quantifier `f` names what it repeats: as the text of the last fragment
before it if this stands as deep or deeper and no closing parenthesis between them is a stray. -/
def repeatedItem (pattern : String) (before : List Fragment) (f : Fragment) : String :=
  match before.getLast? with
  | none => "the preceding character"
  | some g =>
    if f.depth ≤ g.depth ∧ ∀ i ∈ strays pattern, i < g.span.stop ∨ f.span.start ≤ i then
      "the preceding item (" ++ g.sourceText ++ ")"
    else "the preceding character"

/-! ### Texts of quantifiers -/

theorem Token.scanLazy_mark (token : List Char) (lazy : Bool) :
    scanLazy token (if lazy then ['?'] else []) = (quantifier token lazy, []) := by
  cases lazy <;> rfl

namespace QuantifierText

open Token

variable {text token token' : List Char} {lazy lazy' : Bool}

/-- The text of a quantifier is scanned as its token. -/
theorem list_eq (h : QuantifierText text token lazy) : list text = [quantifier token lazy] := by
  have hnil : list [] = [] := by rw [list]
  rw [← hnil]
  cases h with
  | mark lazy hc =>
    refine list_cons_of_scan (Eq.trans ?_ (scanLazy_mark _ lazy))
    rcases hc with rfl | rfl | rfl <;> rfl
  | @braces body lazy hbody =>
    rw [List.cons_append, List.cons_append, List.append_assoc, List.singleton_append]
    exact list_cons_of_scan ((scan_braces hbody _).trans (scanLazy_mark _ lazy))
  | openBrace hbody => exact list_cons_of_scan (scan_openBrace hbody)

/-- There is one way to take the token off the text of a quantifier. -/
theorem unique (h : QuantifierText text token lazy) (h' : QuantifierText text token' lazy') :
    token = token' ∧ lazy = lazy' := by
  have heq := h.list_eq.symm.trans h'.list_eq
  simpa using heq

theorem of_scanLazy
    (htoken : ∀ lazy, QuantifierText (token ++ if lazy then ['?'] else []) token lazy)
    (cs : List Char) (h : (scanLazy token cs).1 = quantifier token' lazy) :
    QuantifierText (quantifier token' lazy).text token' lazy := by
  unfold scanLazy at h
  split at h
  · cases h
    exact htoken true
  · cases h
    exact htoken false

/-- The scan finds no other quantifiers. -/
theorem of_scan {c : Char} {cs : List Char} (h : (scan c cs).1 = quantifier token lazy) :
    QuantifierText (quantifier token lazy).text token lazy := by
  have hbrace (h : (scan '{' cs).1 = quantifier token lazy) :
      QuantifierText (quantifier token lazy).text token lazy := by
    obtain ⟨body, rest, rfl, hbody, hscan⟩ | ⟨hbody, hscan⟩ := scan_brace cs
    · rw [hscan] at h
      exact of_scanLazy (fun lazy => .braces lazy hbody) rest h
    · rw [hscan] at h
      cases h
      simpa [Token.text] using QuantifierText.openBrace hbody
  have hlexeme : Lexeme (scan c cs).2 .quantifier (quantifier token lazy).text := by
    have hkind : (scan c cs).1.kind? = some .quantifier := by
      rw [h]
      rfl
    simpa only [h] using lexeme_scan hkind
  have happend := text_append_scan c cs
  rw [h] at happend
  generalize htext : (quantifier token lazy).text = text at hlexeme happend
  rw [← htext]
  cases hlexeme with
  | quantifier hd =>
    obtain ⟨rfl, -⟩ := List.cons.inj happend
    refine of_scanLazy (fun lazy => .mark lazy hd) cs (Eq.trans ?_ h)
    rcases hd with rfl | rfl | rfl <;> rfl
  | braces | openBrace =>
    obtain ⟨rfl, -⟩ := List.cons.inj happend
    exact hbrace h
  | marked hmark => cases hmark

theorem of_mem_list {cs : List Char} (h : quantifier token lazy ∈ list cs) :
    QuantifierText (quantifier token lazy).text token lazy := by
  fun_induction list cs with
  | case1 => cases h
  | case2 c cs ih =>
    rcases List.mem_cons.1 h with h | h
    · exact of_scan h.symm
    · exact ih h

end QuantifierText

/-! ### Levels behind closing parentheses -/

namespace Levels

theorem foldl_close_start (n : Nat) :
    (List.replicate n Token.close).foldl Levels.after {} = {} := by
  induction n with
  | zero => rfl
  | succ n ih => exact ih

theorem depth_foldl_close (ls : Levels) (n : Nat) :
    ((List.replicate n Token.close).foldl Levels.after ls).depth = ls.depth - n := by
  induction n generalizing ls with
  | zero => rfl
  | succ n ih =>
    have hclose : (ls.after .close).depth = ls.depth - 1 := depth_close ls
    rw [List.replicate_succ, List.foldl_cons, ih, hclose]
    omega

/-- The item of a level goes out with each level that is closed, until there is none left. -/
theorem item_foldl_close (text : List Char) (outer : List (Option (List Char))) (n : Nat) :
    ((List.replicate n Token.close).foldl Levels.after ⟨some text, outer⟩).item =
      if n ≤ outer.length then some text else none := by
  induction n generalizing outer with
  | zero => rfl
  | succ n ih =>
    rw [List.replicate_succ, List.foldl_cons]
    cases outer with
    | nil => exact congrArg Levels.item (foldl_close_start n)
    | cons around outer => simpa [Levels.after, Levels.close] using ih outer

/-- The last fragment is the item if each level that it opened has been closed and each closing
parenthesis has closed a level. -/
theorem item_after_foldl_close (ls : Levels) {t : Token} {item : Option (List Char)}
    {kind : FragmentKind} {sentence : String} (h : t.explain? item = some (kind, sentence))
    (n : Nat) :
    ((List.replicate n Token.close).foldl Levels.after (ls.after t)).item =
      if kind.levels ≤ n ∧ n ≤ (ls.after t).depth then some t.text else none := by
  rw [after_of_explain? ls h, FragmentKind.levels]
  cases kind.isContainer with
  | false => simpa [Levels.depth] using item_foldl_close t.text ls.outer n
  | true =>
    cases n with
    | zero => rfl
    | succ n =>
      rw [List.replicate_succ, List.foldl_cons]
      simpa [Levels.depth, Levels.after, Levels.close] using item_foldl_close t.text ls.outer n

end Levels

/-! ### Strays -/

theorem utf8Length_flatMap_close (n : Nat) :
    utf8Length ((List.replicate n Token.close).flatMap Token.text) = n := by
  rw [List.flatMap_replicate]
  simpa [Token.text] using utf8Length_replicate_close n

theorem straysFrom_append (ls : Levels) (offset : Nat) (ts us : List Token) :
    straysFrom ls offset (ts ++ us) = straysFrom ls offset ts ++
      straysFrom (ts.foldl Levels.after ls) (offset + utf8Length (ts.flatMap Token.text)) us := by
  induction ts generalizing ls offset with
  | nil => rfl
  | cons t ts ih =>
    simp only [List.cons_append, straysFrom, ih, List.foldl_cons, List.flatMap_cons,
      utf8Length_append, Nat.add_assoc]
    split <;> rfl

theorem le_of_mem_straysFrom {ls : Levels} {offset i : Nat} {ts : List Token}
    (h : i ∈ straysFrom ls offset ts) :
    offset ≤ i ∧ i < offset + utf8Length (ts.flatMap Token.text) := by
  induction ts generalizing ls offset with
  | nil => cases h
  | cons t ts ih =>
    rw [List.flatMap_cons, utf8Length_append]
    rw [straysFrom] at h
    split at h
    · next hstray =>
      have hclose : utf8Length t.text = 1 := by
        rw [hstray.1]
        rfl
      rcases List.mem_cons.1 h with rfl | h
      · omega
      · have := ih h
        omega
    · have := ih h
      omega

theorem straysFrom_replicate_close {ls : Levels} {offset n : Nat} :
    straysFrom ls offset (List.replicate n .close) = [] ↔ n ≤ ls.depth := by
  induction n generalizing ls offset with
  | zero => simp [straysFrom]
  | succ n ih =>
    have hclose : (ls.after .close).depth = ls.depth - 1 := Levels.depth_close ls
    rw [List.replicate_succ, straysFrom]
    split
    · next hstray => simp [hstray.2]
    · next hstray =>
      have hpos : ls.depth ≠ 0 := fun hzero => hstray ⟨rfl, hzero⟩
      rw [ih, hclose]
      omega

/-- Of some closing parentheses in a row none is a stray if there are levels to close for all. -/
theorem forall_straysFrom_iff (ls : Levels) (offset : Nat) (ts us : List Token) (n : Nat) :
    (∀ i ∈ straysFrom ls offset (ts ++ (List.replicate n .close ++ us)),
      i < offset + utf8Length (ts.flatMap Token.text) ∨
        offset + utf8Length (ts.flatMap Token.text) + n ≤ i) ↔
      n ≤ (ts.foldl Levels.after ls).depth := by
  generalize hstop : offset + utf8Length (ts.flatMap Token.text) = stop
  rw [straysFrom_append, straysFrom_append, utf8Length_flatMap_close, hstop,
    ← @straysFrom_replicate_close _ stop, List.eq_nil_iff_forall_not_mem]
  constructor
  · intro h i hi
    have hmem := h i (List.mem_append_right _ (List.mem_append_left _ hi))
    have hbounds := le_of_mem_straysFrom hi
    rw [utf8Length_flatMap_close] at hbounds
    omega
  · intro h i hi
    rcases List.mem_append.1 hi with hi | hi
    · have := le_of_mem_straysFrom hi
      omega
    · rcases List.mem_append.1 hi with hi | hi
      · exact absurd hi (h i)
      · exact .inr (le_of_mem_straysFrom hi).1

/-! ### Tokens of fragments -/

/-- The fragment that a token at a byte offset becomes inside of open levels. -/
structure IsFragment (ls : Levels) (offset : Nat) (t : Token) (f : Fragment) : Prop where
  explain?_eq : t.explain? ls.item = some (f.kind, f.explanation)
  sourceText_eq : f.sourceText = String.ofList t.text
  depth_eq : f.depth = ls.depth
  span_eq : f.span = ⟨offset, offset + utf8Length t.text⟩

/-- Each fragment comes from a token, and the fragments before and behind it from those before and
behind the token. -/
theorem exists_token_of_fragmentsFrom {ls : Levels} {offset : Nat} {ts : List Token}
    {before after : List Fragment} {f : Fragment}
    (h : fragmentsFrom ls offset ts = before ++ f :: after) :
    ∃ us t vs, ts = us ++ t :: vs ∧ fragmentsFrom ls offset us = before ∧
      IsFragment (us.foldl Levels.after ls) (offset + utf8Length (us.flatMap Token.text)) t f ∧
      fragmentsFrom ((us.foldl Levels.after ls).after t) f.span.stop vs = after := by
  induction ts generalizing ls offset before with
  | nil => cases before <;> cases h
  | cons u ts ih =>
    cases hexplain : u.explain? ls.item with
    | none =>
      obtain rfl := Token.eq_close_of_explain? hexplain
      rw [fragmentsFrom_close_cons] at h
      obtain ⟨us, t, vs, rfl, hbefore, hfragment, hafter⟩ := ih h
      refine ⟨.close :: us, t, vs, rfl, hbefore, ?_, hafter⟩
      rwa [List.flatMap_cons, utf8Length_append, ← Nat.add_assoc]
    | some r =>
      rw [fragmentsFrom_cons_of_explain? hexplain] at h
      cases before with
      | nil =>
        obtain ⟨rfl, rfl⟩ := List.cons.inj h
        exact ⟨[], u, ts, rfl, rfl, ⟨hexplain, rfl, rfl, rfl⟩, rfl⟩
      | cons g before =>
        obtain ⟨rfl, hrest⟩ := List.cons.inj h
        obtain ⟨us, t, vs, rfl, rfl, hfragment, hafter⟩ := ih hrest
        refine ⟨u :: us, t, vs, rfl, fragmentsFrom_cons_of_explain? hexplain _ _, ?_, hafter⟩
        rwa [List.flatMap_cons, utf8Length_append, ← Nat.add_assoc]

/-- Only closing parentheses become no fragment. -/
theorem eq_replicate_of_fragmentsFrom {ls : Levels} {offset : Nat} {ts : List Token}
    (h : fragmentsFrom ls offset ts = []) : ∃ n, ts = List.replicate n .close := by
  induction ts generalizing ls offset with
  | nil => exact ⟨0, rfl⟩
  | cons t ts ih =>
    cases hexplain : t.explain? ls.item with
    | none =>
      obtain rfl := Token.eq_close_of_explain? hexplain
      rw [fragmentsFrom_close_cons] at h
      obtain ⟨n, rfl⟩ := ih h
      exact ⟨n + 1, rfl⟩
    | some r =>
      rw [fragmentsFrom_cons_of_explain? hexplain] at h
      cases h

/-- Of two fragments with nothing but closing parentheses between them the second one stands no
deeper just if the level that the first one opens is closed, and no parenthesis is a stray just if
there are levels for all. -/
theorem depth_le_and_strays_iff {pattern : String} {us vs : List Token} {t u : Token} {n : Nat}
    {f g : Fragment}
    (hlist : Token.list pattern.toList = us ++ u :: List.replicate n .close ++ t :: vs)
    (hg : IsFragment (us.foldl Levels.after {}) (0 + utf8Length (us.flatMap Token.text)) u g)
    (hf : IsFragment ((us ++ u :: List.replicate n .close).foldl Levels.after {})
      (utf8Length ((us ++ u :: List.replicate n .close).flatMap Token.text)) t f) :
    (f.depth ≤ g.depth ∧ ∀ i ∈ strays pattern, i < g.span.stop ∨ f.span.start ≤ i) ↔
      g.kind.levels ≤ n ∧ n ≤ ((us.foldl Levels.after {}).after u).depth := by
  have hopened : ((us.foldl Levels.after {}).after u).depth =
      (us.foldl Levels.after {}).depth + g.kind.levels := Levels.depth_after hg.explain?_eq
  have hdepth := hf.depth_eq
  rw [List.foldl_append, List.foldl_cons, Levels.depth_foldl_close] at hdepth
  have hstop : g.span.stop = utf8Length ((us ++ [u]).flatMap Token.text) := by
    simp [hg.span_eq]
  have hstart : f.span.start = utf8Length ((us ++ [u]).flatMap Token.text) + n := by
    simp [hf.span_eq, utf8Length_flatMap_close, Nat.add_assoc]
  have hstrays := forall_straysFrom_iff {} 0 (us ++ [u]) (t :: vs) n
  have hparts : us ++ [u] ++ (List.replicate n .close ++ t :: vs) =
      Token.list pattern.toList := by
    simp [hlist]
  rw [hparts, ← strays, Nat.zero_add, ← hstart, ← hstop, List.foldl_append, List.foldl_cons,
    List.foldl_nil] at hstrays
  rw [hstrays, hg.depth_eq]
  omega

/-- What the scan has as the item before a token is named in the way that the fragments tell. -/
theorem itemPhrase_eq_repeatedItem {pattern : String} {us vs : List Token} {t : Token}
    {f : Fragment} (hlist : Token.list pattern.toList = us ++ t :: vs)
    (hf : IsFragment (us.foldl Levels.after {}) (utf8Length (us.flatMap Token.text)) t f) :
    Token.itemPhrase (us.foldl Levels.after {}).item =
      repeatedItem pattern (fragmentsFrom {} 0 us) f := by
  rcases List.eq_nil_or_concat (fragmentsFrom {} 0 us) with hnone | ⟨before, g, hlast⟩
  · obtain ⟨n, rfl⟩ := eq_replicate_of_fragmentsFrom hnone
    rw [hnone, Levels.foldl_close_start]
    rfl
  · rw [List.concat_eq_append] at hlast
    obtain ⟨us, u, ws, rfl, -, hg, hbehind⟩ := exists_token_of_fragmentsFrom hlast
    -- behind `g` there are only closing parentheses, since nothing there is a fragment
    obtain ⟨n, rfl⟩ := eq_replicate_of_fragmentsFrom hbehind
    have hcond := depth_le_and_strays_iff hlist hg hf
    have hitem := Levels.item_after_foldl_close (us.foldl Levels.after {}) hg.explain?_eq n
    rw [repeatedItem, hlast, List.getLast?_concat, List.foldl_append, List.foldl_cons, hitem]
    simp only [hcond, hg.sourceText_eq]
    split <;> rfl

theorem Token.eq_quantifier_of_explain? {t : Token} {item : Option (List Char)}
    {sentence : String} (h : t.explain? item = some (.quantifier, sentence)) :
    ∃ token lazy, t = quantifier token lazy ∧ quantifierSentence token lazy item = sentence := by
  cases t with
  | quantifier token lazy =>
    cases h
    exact ⟨token, lazy, rfl, rfl⟩
  | characterSet negated => cases negated <;> cases h
  | opener o => cases o <;> cases h
  | _ => cases h

/-- The sentence of a quantifier is told by its text and by the fragments before it. -/
theorem explanation_quantifier {pattern : String} {before after : List Fragment} {f : Fragment}
    (hfs : explainPattern pattern = before ++ f :: after) (hkind : f.kind = .quantifier) :
    (∃ (token : String) (lazy : Bool),
      QuantifierText f.sourceText.toList token.toList lazy) ∧
    ∀ (token : String) (lazy : Bool), QuantifierText f.sourceText.toList token.toList lazy →
      f.explanation =
        match Quantifier.ofToken? token with
        | some q => q.describe (repeatedItem pattern before f) lazy
        | none => "Match using quantifier " ++ f.sourceText := by
  obtain ⟨us, t, vs, hlist, rfl, hf, -⟩ := exists_token_of_fragmentsFrom hfs
  rw [Nat.zero_add] at hf
  have hexplain := hf.explain?_eq
  rw [hkind] at hexplain
  obtain ⟨token, lazy, rfl, hsentence⟩ := Token.eq_quantifier_of_explain? hexplain
  have hmem : .quantifier token lazy ∈ Token.list pattern.toList := by
    rw [hlist]
    exact List.mem_append_right us (.head vs)
  have htext := QuantifierText.of_mem_list hmem
  rw [hf.sourceText_eq, String.toList_ofList]
  constructor
  · exact ⟨String.ofList token, lazy, by rwa [String.toList_ofList]⟩
  · intro token' lazy' htext'
    obtain ⟨rfl, rfl⟩ := htext.unique htext'
    rw [← hsentence, Token.quantifierSentence, itemPhrase_eq_repeatedItem hlist hf]
    rfl

theorem explanation_quantifier_group : ∃ before f,
    explainPattern "x)(a(b))+?" = before ++ f :: [] ∧ f.kind = .quantifier ∧
      QuantifierText f.sourceText.toList "+".toList true ∧
      f.explanation = Quantifier.oneOrMore.describe
        (repeatedItem "x)(a(b))+?" before f) true := by
  have hfs : explainPattern "x)(a(b))+?" = (explainPattern "x)(a(b))+?").take 5 ++
      ⟨"+?", "Match the preceding item (b) one or more times (lazy, matching as few as possible)",
        0, ⟨8, 10⟩, .quantifier⟩ :: [] := by
    decide +kernel
  have htext : QuantifierText "+?".toList "+".toList true := .mark true (.inr (.inl rfl))
  exact ⟨_, _, hfs, rfl, htext, (explanation_quantifier hfs rfl).2 "+" true htext⟩

end PatternProse
