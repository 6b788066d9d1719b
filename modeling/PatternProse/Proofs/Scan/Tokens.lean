import Mathlib.Data.List.Basic
import Mathlib.Data.List.TakeWhile
import PatternProse.Proofs.Quantifier
import PatternProse.Token

/-!
# Tokens that stand in a text

Which tokens the scan finds at the start of a text that is known to start with one: a run of
ordinary characters, a quantifier or an opener.
-/

namespace PatternProse

/-- A character of one kind is none of some characters that are all of another kind. -/
theorem contains_eq_false_of {cs : List Char} {p : Char → Bool} (h : cs.all (!p ·) = true)
    {c : Char} (hc : p c = true) : cs.contains c = false := by
  rw [← Bool.not_eq_true, List.contains_iff_mem]
  intro hmem
  have hother := List.all_eq_true.1 h c hmem
  rw [hc] at hother
  cases hother

namespace Token

theorem list_cons_of_scan {c : Char} {cs rest : List Char} {t : Token}
    (h : scan c cs = (t, rest)) : list (c :: cs) = t :: list rest := by
  rw [list, h]

theorem scan_ordinary {c : Char} (h : isMetacharacter c = false) (cs : List Char) :
    scan c cs = (literal (c :: cs.takeWhile (!isMetacharacter ·)),
      cs.dropWhile (!isMetacharacter ·)) := by
  unfold scan
  split <;> first | rfl | exact absurd h (by decide)

/-- A further ordinary character makes no other tokens than a literal. -/
theorem list_ordinary {c : Char} (h : isMetacharacter c = false) (cs : List Char) :
    (∃ run, list (c :: cs) = literal run :: list cs) ∨
      ∃ run run' ts, list (c :: cs) = literal run :: ts ∧ list cs = literal run' :: ts := by
  have hlist := list_cons_of_scan (scan_ordinary h cs)
  cases cs with
  | nil => exact .inl ⟨_, hlist⟩
  | cons d cs =>
    cases hd : isMetacharacter d with
    | true =>
      rw [List.dropWhile_cons_of_neg (by simp [hd])] at hlist
      exact .inl ⟨_, hlist⟩
    | false =>
      rw [List.dropWhile_cons_of_pos (by simp [hd])] at hlist
      exact .inr ⟨_, _, _, hlist, list_cons_of_scan (scan_ordinary hd cs)⟩

theorem mem_metacharacters {c : Char} (h : isMetacharacter c = true) :
    c ∈ ['\\', '[', ']', '(', ')', '.', '*', '+', '?', '{', '}', '^', '$', '|'] :=
  List.contains_iff_mem.1 h

/-- The characters that a token may start with, as far as the scan goes on in different ways
behind them. -/
@[elab_as_elim]
theorem scan_cases {motive : Char → List Char → Prop} (c : Char) (cs : List Char)
    (ordinary : ∀ c cs, isMetacharacter c = false → motive c cs)
    (escape : ∀ cs, motive '\\' cs) (bracket : ∀ cs, motive '[' cs) (opener : ∀ cs, motive '(' cs)
    (quantifier : ∀ c cs, c = '*' ∨ c = '+' ∨ c = '?' → (∀ ds, scan c ds = scanLazy [c] ds) →
      motive c cs)
    (brace : ∀ cs, motive '{' cs)
    (single : ∀ c cs, c ∈ [')', ']', '}', '.', '^', '$', '|'] → motive c cs) : motive c cs := by
  cases hmeta : isMetacharacter c with
  | false => exact ordinary c cs hmeta
  | true =>
    have hmem := mem_metacharacters hmeta
    simp only [List.mem_cons, List.not_mem_nil, or_false] at hmem
    rcases hmem with rfl | rfl | rfl | rfl | rfl | rfl | rfl | rfl | rfl | rfl | rfl | rfl | rfl |
      rfl
    · exact escape cs
    · exact bracket cs
    · exact single _ cs (by decide)
    · exact opener cs
    iterate 2 exact single _ cs (by decide)
    · exact quantifier _ cs (.inl rfl) fun _ => rfl
    · exact quantifier _ cs (.inr (.inl rfl)) fun _ => rfl
    · exact quantifier _ cs (.inr (.inr rfl)) fun _ => rfl
    · exact brace cs
    iterate 4 exact single _ cs (by decide)

/-! ### Quantifiers -/

theorem scanLazy_of_head?_ne {rest : List Char} (h : rest.head? ≠ some '?') (token : List Char) :
    scanLazy token rest = (quantifier token false, rest) := by
  unfold scanLazy
  split
  · exact absurd rfl h
  · rfl

theorem ne_closeBrace {body : List Char} (h : '}' ∉ body) : ∀ c ∈ body, (c != '}') = true := by
  intro c hc
  simpa using fun heq : c = '}' => h (heq ▸ hc)

/-- What stands before the first closing brace, and what follows. -/
theorem span_closeBrace {body : List Char} (h : '}' ∉ body) (rest : List Char) :
    (body ++ '}' :: rest).takeWhile (· != '}') = body ∧
      (body ++ '}' :: rest).dropWhile (· != '}') = '}' :: rest := by
  have hbody := ne_closeBrace h
  rw [List.takeWhile_append_of_pos hbody, List.dropWhile_append_of_pos hbody]
  exact ⟨List.append_nil body, rfl⟩

theorem scan_braces {body : List Char} (h : '}' ∉ body) (rest : List Char) :
    scan '{' (body ++ '}' :: rest) = scanLazy ('{' :: body ++ ['}']) rest := by
  obtain ⟨htake, hdrop⟩ := span_closeBrace h rest
  simp only [scan, hdrop, htake]

theorem scan_openBrace {body : List Char} (h : '}' ∉ body) :
    scan '{' body = (quantifier ('{' :: body) false, []) := by
  have hdrop : body.dropWhile (· != '}') = [] := List.dropWhile_eq_nil_iff.2 (ne_closeBrace h)
  simp only [scan, hdrop]

/-- Braces run to the first closing one, or else to the end of the text. -/
theorem scan_brace (cs : List Char) :
    (∃ body rest, cs = body ++ '}' :: rest ∧ '}' ∉ body ∧
      scan '{' cs = scanLazy ('{' :: body ++ ['}']) rest) ∨
    ('}' ∉ cs ∧ scan '{' cs = (quantifier ('{' :: cs) false, [])) := by
  by_cases h : '}' ∈ cs
  · obtain ⟨body, rest, rfl, hbody⟩ := List.eq_append_cons_of_mem h
    exact .inl ⟨body, rest, rfl, hbody, scan_braces hbody rest⟩
  · exact .inr ⟨h, scan_openBrace h⟩

/-- The counts of a quantifier stand between the first opening and the first closing brace. -/
theorem list_braced {counts rest : List Char} (hcounts : '}' ∉ counts)
    (h : rest.head? ≠ some '?') :
    list ('{' :: (counts ++ '}' :: rest)) =
      quantifier ('{' :: (counts ++ ['}'])) false :: list rest := by
  refine list_cons_of_scan ((scan_braces hcounts rest).trans ?_)
  exact scanLazy_of_head?_ne h _

/-- The token of a quantifier is scanned as one that is not lazy. -/
theorem list_quantifier (q : Quantifier) {rest : List Char} (h : rest.head? ≠ some '?') :
    list (q.chars ++ rest) = quantifier q.chars false :: list rest := by
  have hbrace : ∀ n, '}' ∉ Decimal.digits n := Decimal.notMem_digits (by decide)
  cases q with
  | zeroOrMore | oneOrMore | zeroOrOne => exact list_cons_of_scan (scanLazy_of_head?_ne h _)
  | exactly n =>
    simp only [Quantifier.chars, List.cons_append, List.append_assoc, List.nil_append]
    exact list_braced (hbrace n.toNat) h
  | atLeast n =>
    have hcounts : '}' ∉ Decimal.digits n.toNat ++ [','] := by simp [hbrace]
    have hlist := list_braced hcounts h
    simpa only [Quantifier.chars, List.cons_append, List.append_assoc, List.nil_append] using hlist
  | between n m =>
    have hcounts : '}' ∉ Decimal.digits n.toNat ++ ',' :: Decimal.digits m.toNat := by
      simp [hbrace]
    have hlist := list_braced hcounts h
    simpa only [Quantifier.chars, List.cons_append, List.append_assoc, List.nil_append] using hlist

end Token

/-! ### Openers -/

namespace Opener

/-- A parenthesis without a question mark behind it captures. -/
theorem scan_of_head?_ne {cs : List Char} (h : cs.head? ≠ some '?') :
    scan cs = (.capture, cs) := by
  unfold scan
  split <;> first | rfl | exact absurd rfl h

end Opener

namespace Token

theorem list_capture {cs : List Char} (h : cs.head? ≠ some '?') :
    list ('(' :: cs) = opener .capture :: list cs := by
  refine list_cons_of_scan ?_
  simp only [scan, Opener.scan_of_head?_ne h]

theorem list_nonCapturing (cs : List Char) :
    list ('(' :: '?' :: ':' :: cs) = opener .nonCapturing :: list cs := list_cons_of_scan rfl

theorem list_lookaround (k : Lookaround) (cs : List Char) :
    list ('(' :: (k.mark ++ cs)) = opener (.lookaround k) :: list cs := by
  cases k <;> exact list_cons_of_scan rfl

end Token

namespace Opener

theorem isName_iff {name : List Char} : isName name = true ↔
    name ≠ [] ∧ ∀ c ∈ name, Unicode.isAlphanumeric c = true ∨ c = '_' ∨ c = '$' := by
  simp [isName, or_assoc]

/-- What ends a name or its group, escapes in it or makes a lookbehind stands in no name. -/
theorem notMem_name {name : List Char}
    (h : ∀ c ∈ name, Unicode.isAlphanumeric c = true ∨ c = '_' ∨ c = '$') {c : Char}
    (hc : c ∈ ['>', '=', '!', '\\', ')']) : c ∉ name := by
  intro hmem
  let p (c : Char) : Bool := Unicode.isAlphanumeric c || c == '_' || c == '$'
  have hname : p c = true := by
    simpa [p, or_assoc] using h c hmem
  have hother := contains_eq_false_of (by decide : ['>', '=', '!', '\\', ')'].all (!p ·) = true) hname
  rw [List.contains_iff_mem.2 hc] at hother
  cases hother

end Opener

end PatternProse
