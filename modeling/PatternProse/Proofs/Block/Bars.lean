import Mathlib.Algebra.Group.Nat.Even
import Mathlib.Data.List.DropRight
import PatternProse.Proofs.Block.Outline

/-!
# Bars that are not escaped

A block is put into a group before a quantifier if its pattern has a bar that is not escaped. The
test for such a bar pairs each backslash with the character behind it, which comes to the same as
counting the backslashes before a bar. It knows of no other syntax, so it finds the alternations of
a pattern as long as no bar and no backslash stands in a class, between braces or in an opener.

## Main definitions

* `Block.backslashRun` — the number of backslashes that a text ends with.
* `Token.hidesBar` — whether bars and backslashes of a token mean something else than elsewhere.
* `Block.hasClass` — whether a block or one that it holds is a character class.

The main statement is `Block.hasBar_iff_even_and_alternation`.
-/

namespace PatternProse

namespace Block

/-! ### Runs of backslashes -/

/-- The number of backslashes that a text ends with. -/
def backslashRun (cs : List Char) : Nat := (cs.rtakeWhile (· == '\\')).length

theorem backslashRun_cons (c : Char) (cs : List Char) :
    backslashRun (c :: cs) = backslashRun cs + ((c :: cs).all (· == '\\')).toNat := by
  have hall : (List.takeWhile (· == '\\') cs.reverse).length = cs.length ↔
      cs.all (· == '\\') = true := by
    rw [← cs.length_reverse]
    refine Iff.trans ⟨(List.takeWhile_prefix _).eq_of_length, congrArg _⟩ ?_
    rw [List.takeWhile_eq_self_iff]
    simp
  simp only [backslashRun, List.rtakeWhile, List.length_reverse, List.reverse_cons,
    List.takeWhile_append, List.all_cons]
  cases hcs : cs.all (· == '\\') with
  | true =>
    rw [if_pos (hall.2 hcs), hall.2 hcs, Bool.and_true, List.length_append, List.length_reverse]
    by_cases hc : c = '\\' <;> simp [hc]
  | false =>
    have hnot := mt hall.1 (Bool.eq_false_iff.1 hcs)
    rw [if_neg hnot, Bool.and_false, Bool.toNat_false, Nat.add_zero]

theorem backslashRun_cons_of_ne {c : Char} (h : c ≠ '\\') (cs : List Char) :
    backslashRun (c :: cs) = backslashRun cs := by
  have hc : (c == '\\') = false := beq_false_of_ne h
  rw [backslashRun_cons, List.all_cons, hc, Bool.false_and, Bool.toNat_false, Nat.add_zero]

/-- A backslash and the character behind it do not change whether the run at the end is even. -/
theorem even_backslashRun_pair (c : Char) (cs : List Char) :
    Even (backslashRun ('\\' :: c :: cs)) ↔ Even (backslashRun cs) := by
  have hpair : ('\\' :: c :: cs).all (· == '\\') = (c :: cs).all (· == '\\') := by
    rw [List.all_cons, beq_self_eq_true, Bool.true_and]
  rw [backslashRun_cons, backslashRun_cons, hpair]
  cases (c :: cs).all (· == '\\') with
  | false => rfl
  | true => simp [Nat.even_add_one]

/-- There is a bar that is not escaped if, and only if, some bar stands behind an even number of
backslashes. -/
theorem hasBar_iff (cs : List Char) : hasBar cs = true ↔
    ∃ before after, cs = before ++ '|' :: after ∧ Even (backslashRun before) := by
  fun_induction hasBar cs with
  | case1 => simp
  | case2 => simp [List.cons_eq_append_iff]
  | case3 c cs ih =>
    rw [ih]
    constructor
    · rintro ⟨before, after, rfl, heven⟩
      exact ⟨'\\' :: c :: before, after, rfl, (even_backslashRun_pair c before).2 heven⟩
    · rintro ⟨before, after, heq, heven⟩
      match before with
      | [] => cases heq
      | [d] =>
        cases heq
        exact absurd heven (by decide)
      | d :: e :: before =>
        cases heq
        exact ⟨before, after, rfl, (even_backslashRun_pair c before).1 heven⟩
  | case4 c cs hc ih =>
    rw [Bool.or_eq_true, beq_iff_eq, ih]
    constructor
    · rintro (rfl | ⟨before, after, rfl, heven⟩)
      · exact ⟨[], cs, rfl, by decide⟩
      · exact ⟨c :: before, after, rfl, by rwa [backslashRun_cons_of_ne hc]⟩
    · rintro ⟨before, after, heq, heven⟩
      cases before with
      | nil => exact .inl (List.cons.inj heq).1
      | cons d before =>
        cases heq
        rw [backslashRun_cons_of_ne hc] at heven
        exact .inr ⟨before, after, rfl, heven⟩

example : hasBar ['a', '\\', '\\', '\\', '|', '\\', '\\', '|'] = true := by decide

/-! ### Bars and tokens -/

theorem hasBar_cons_of_ne {c : Char} (hbar : c ≠ '|') (hbackslash : c ≠ '\\') (cs : List Char) :
    hasBar (c :: cs) = hasBar cs := by
  rw [hasBar.eq_4 c cs hbackslash, beq_false_of_ne hbar, Bool.false_or]

theorem hasBar_append_of_notMem {s : List Char} (hbar : '|' ∉ s) (hbackslash : '\\' ∉ s)
    (cs : List Char) : hasBar (s ++ cs) = hasBar cs := by
  induction s with
  | nil => rfl
  | cons c s ih =>
    rw [List.mem_cons, not_or] at hbar hbackslash
    rw [List.cons_append, hasBar_cons_of_ne (Ne.symm hbar.1) (Ne.symm hbackslash.1),
      ih hbar.2 hbackslash.2]

end Block

namespace Token

open Block (hasBar hasBar_append_of_notMem)

/-- Whether a token other than a run, an escape or an alternation is written with a bar or a
backslash. -/
def hidesBar : Token → Bool
  | literal _ | escape _ | bar => false
  | t => t.text.any fun c => c == '|' || c == '\\'

/-- Whether a bar is found behind a token without bars and backslashes does not depend on it. -/
theorem hasBar_scan_of_text {c : Char} {cs : List Char} (hbar : (scan c cs).1 ≠ bar)
    (htext : ((scan c cs).1.text.any fun c => c == '|' || c == '\\') = false) :
    hasBar (c :: cs) = true ↔ (scan c cs).1 = bar ∨ hasBar (scan c cs).2 = true := by
  simp only [List.any_eq_false, Bool.or_eq_true, beq_iff_eq, not_or] at htext
  have happend := hasBar_append_of_notMem (fun h => (htext _ h).1 rfl) (fun h => (htext _ h).2 rfl)
    (scan c cs).2
  rw [text_append_scan] at happend
  rw [happend, or_iff_right hbar]

theorem hasBar_scan_of_quantifier {c : Char} {cs token rest : List Char} {lazy : Bool}
    (hscan : scan c cs = (quantifier token lazy, rest)) (h : (scan c cs).1.hidesBar = false) :
    hasBar (c :: cs) = true ↔ (scan c cs).1 = bar ∨ hasBar (scan c cs).2 = true := by
  refine hasBar_scan_of_text (by simp [hscan]) ?_
  rw [hscan] at h ⊢
  exact h

theorem exists_scanLazy (token cs : List Char) :
    ∃ lazy rest, scanLazy token cs = (quantifier token lazy, rest) := by
  unfold scanLazy
  split
  · exact ⟨true, _, rfl⟩
  · exact ⟨false, _, rfl⟩

/-- The test for a bar goes through a text token by token, unless a token misleads it. -/
theorem hasBar_scan {c : Char} {cs : List Char} (h : (scan c cs).1.hidesBar = false) :
    hasBar (c :: cs) = true ↔ (scan c cs).1 = bar ∨ hasBar (scan c cs).2 = true := by
  cases c, cs using scan_cases with
  | ordinary c cs hc =>
    refine hasBar_scan_of_text (by simp [scan_ordinary hc]) ?_
    rw [scan_ordinary hc, text, List.any_eq_false]
    intro d hd hother
    have hmeta : isMetacharacter d = false := by
      rcases List.mem_cons.1 hd with rfl | hd
      · exact hc
      · simpa using List.mem_takeWhile_imp hd
    rw [Bool.or_eq_true, beq_iff_eq, beq_iff_eq] at hother
    rcases hother with rfl | rfl <;> cases hmeta
  | escape cs =>
    cases cs with
    | nil => simp [scan, hasBar]
    | cons d cs => simp [scan, hasBar]
  | bracket cs =>
    refine hasBar_scan_of_text ?_ ?_
    · simp only [scan]
      split <;> simp
    · rw [← h]
      simp only [scan]
      split <;> rfl
  | opener cs => exact hasBar_scan_of_text (by simp [scan]) h
  | quantifier c cs hc hscan =>
    obtain ⟨lazy, rest, hlazy⟩ := exists_scanLazy [c] cs
    exact hasBar_scan_of_quantifier ((hscan cs).trans hlazy) h
  | brace cs =>
    obtain ⟨body, rest, rfl, -, hscan⟩ | ⟨-, hscan⟩ := scan_brace cs
    · obtain ⟨lazy, rest, hlazy⟩ := exists_scanLazy ('{' :: body ++ ['}']) rest
      exact hasBar_scan_of_quantifier (hscan.trans hlazy) h
    · exact hasBar_scan_of_quantifier hscan h
  | single c cs hc =>
    simp only [List.mem_cons, List.not_mem_nil, or_false] at hc
    rcases hc with rfl | rfl | rfl | rfl | rfl | rfl | rfl <;> simp [scan, hasBar]

/-- The test for a bar finds the alternations of a text in which no other token is written with a
bar or a backslash. -/
theorem hasBar_iff_bar_mem {cs : List Char} (h : ∀ t ∈ list cs, t.hidesBar = false) :
    hasBar cs = true ↔ bar ∈ list cs := by
  fun_induction list cs with
  | case1 => simp [hasBar]
  | case2 c cs ih =>
    obtain ⟨htoken, hrest⟩ := List.forall_mem_cons.1 h
    rw [hasBar_scan htoken, ih hrest, List.mem_cons, eq_comm]

/-- Only bars are explained as alternations. -/
theorem eq_alternation_iff_of_explain? {t : Token} {item : Option (List Char)}
    {kind : FragmentKind} {sentence : String} (h : t.explain? item = some (kind, sentence)) :
    kind = .alternation ↔ t = bar := by
  cases t with
  | close => cases h
  | opener o => cases h; cases o <;> simp [Opener.kind]
  | characterSet negated => cases negated <;> (cases h; simp)
  | _ => cases h; simp

end Token

theorem exists_alternation_iff {ls : Levels} {offset : Nat} {ts : List Token} :
    (∃ f ∈ fragmentsFrom ls offset ts, f.kind = .alternation) ↔ .bar ∈ ts := by
  induction ts generalizing ls offset with
  | nil => simp [fragmentsFrom]
  | cons t ts ih =>
    cases hexplain : t.explain? ls.item with
    | none =>
      obtain rfl := Token.eq_close_of_explain? hexplain
      rw [fragmentsFrom_close_cons, ih]
      simp
    | some fragment =>
      rw [fragmentsFrom_cons_of_explain? hexplain, List.exists_mem_cons_iff, ih, List.mem_cons,
        Token.eq_alternation_iff_of_explain? hexplain, eq_comm]

namespace Block

/-! ### Blocks without classes -/

mutual

/-- Whether a block or one that it holds is a character class. -/
def hasClass : Block → Bool
  | characterClass _ _ => true
  | literal _ | symbol _ => false
  | repetition _ body => hasClassOfBody body
  | group bs | alternatives bs | lookaround _ bs => hasClassOfEach bs

/-- Whether there is a character class in what a repetition holds. -/
def hasClassOfBody : Option Block → Bool
  | none => false
  | some b => b.hasClass

/-- Whether there is a character class in one of several blocks. -/
def hasClassOfEach : List Block → Bool
  | [] => false
  | b :: bs => b.hasClass || hasClassOfEach bs

end

theorem hasClassOfEach_eq_any (bs : List Block) : hasClassOfEach bs = bs.any hasClass := by
  induction bs with
  | nil => rfl
  | cons b bs ih => rw [hasClassOfEach, ih, List.any_cons]

theorem hasClass_eq_false_of_mem {bs : List Block} (h : hasClassOfEach bs = false) :
    ∀ b ∈ bs, b.hasClass = false := by
  rw [hasClassOfEach_eq_any, List.any_eq_false] at h
  exact fun b hb => Bool.eq_false_iff.2 (h b hb)

/-- No token of the text misleads the test for a bar. -/
def ShowsBars (cs : List Char) : Prop := ∀ t ∈ Token.list cs, t.hidesBar = false

theorem ShowsBars.cons {cs rest : List Char} {t : Token} (h : ShowsBars rest)
    (hlist : Token.list cs = t :: Token.list rest) (ht : t.hidesBar = false) : ShowsBars cs := by
  rw [ShowsBars, hlist]
  exact List.forall_mem_cons.2 ⟨ht, h⟩

theorem ShowsBars.ordinary {c : Char} {rest : List Char} (h : ShowsBars rest)
    (hc : c ∉ literalSpecials) : ShowsBars (c :: rest) := by
  have hmeta : Token.isMetacharacter c = false := by
    rwa [← isMetacharacter_iff, Bool.not_eq_true] at hc
  obtain ⟨run, hlist⟩ | ⟨run, run', ts, hlist, hlist'⟩ := Token.list_ordinary hmeta rest
  · exact h.cons hlist rfl
  · rw [ShowsBars, hlist'] at h
    rw [ShowsBars, hlist]
    exact List.forall_mem_cons.2 ⟨rfl, (List.forall_mem_cons.1 h).2⟩

/-- The one character of a brief block misleads nothing, even if it is quantified. -/
theorem ShowsBars.brief {b : Block} {c : Char} {rest : List Char} (h : ShowsBars rest)
    (hb : Brief b [c]) : ShowsBars (c :: rest) := by
  generalize hcs : [c] = cs at hb
  induction hb with
  | blank => cases hcs
  | literal _ hc => cases hcs; exact h.ordinary hc
  | @symbol s d hs =>
    cases hcs
    cases s <;> cases hs <;> exact h.cons (Token.list_cons_of_scan rfl) rfl
  | alternatives _ ih => exact ih hcs

/-- Wherever the characters stand, unless they are quantified there, their tokens do not mislead
the test for a bar. -/
def KeepsBars (text : List Char) : Prop :=
  ∀ rest, startsQuantifier rest = false → ShowsBars rest → ShowsBars (text ++ rest)

theorem keepsBars_nil : KeepsBars [] := fun _ _ h => h

theorem KeepsBars.append {s t : List Char} (hs : KeepsBars s) (ht : KeepsBars t)
    (hstart : startsQuantifier t = false) : KeepsBars (s ++ t) := by
  intro rest hrest h
  rw [List.append_assoc]
  exact hs _ (startsQuantifier_append hstart hrest) (ht rest hrest h)

theorem keepsBars_of_list {text : List Char} {t : Token} (ht : t.hidesBar = false)
    (h : ∀ rest, startsQuantifier rest = false →
      Token.list (text ++ rest) = t :: Token.list rest) : KeepsBars text :=
  fun rest hrest hshows => hshows.cons (h rest hrest) ht

theorem keepsBars_bar : KeepsBars ['|'] :=
  keepsBars_of_list rfl fun _ _ => Token.list_cons_of_scan rfl

theorem keepsBars_close : KeepsBars [')'] :=
  keepsBars_of_list rfl fun _ _ => Token.list_cons_of_scan rfl

theorem keepsBars_symbol (s : Symbol) : KeepsBars s.chars := by
  cases s <;> exact keepsBars_of_list rfl fun _ _ => Token.list_cons_of_scan rfl

theorem keepsBars_quantifier (q : Quantifier) : KeepsBars q.chars := by
  refine keepsBars_of_list ?_ fun rest hrest =>
    Token.list_quantifier q (head?_ne_of_startsQuantifier (by decide) hrest)
  have htext : (Token.quantifier q.chars false).text = q.chars := List.append_nil _
  rw [Token.hidesBar, htext, List.any_eq_false]
  · intro c hc hother
    rw [Bool.or_eq_true, beq_iff_eq, beq_iff_eq] at hother
    have hchar := Quantifier.isDigit_or_mem_of_mem_chars hc
    rcases hother with rfl | rfl <;> exact absurd hchar (by decide)
  all_goals simp

theorem keepsBars_escape (cs : List Char) : KeepsBars (escape literalSpecials cs) := by
  intro rest _ h
  induction cs with
  | nil => exact h
  | cons c cs ih =>
    by_cases hc : c ∈ literalSpecials
    · rw [escape_cons_of_mem hc]
      exact ih.cons (Token.list_cons_of_scan rfl) rfl
    · rw [escape_cons_of_notMem hc]
      exact ih.ordinary hc

theorem keepsBars_enclosed {k : Opener} {content : List Char} (hopen : IsScanned k)
    (hk : (Token.opener k).hidesBar = false) (hcontent : KeepsBars content)
    (hstart : startsQuantifier content = false) : KeepsBars (k.text ++ (content ++ [')'])) :=
  KeepsBars.append (keepsBars_of_list hk hopen) (hcontent.append keepsBars_close rfl)
    (startsQuantifier_append hstart rfl)

theorem keepsBars_flatMap {bs : List Block} (h : ∀ b ∈ bs, KeepsBars b.chars) :
    KeepsBars (bs.flatMap chars) := by
  induction bs with
  | nil => exact keepsBars_nil
  | cons b bs ih =>
    obtain ⟨hb, hbs⟩ := List.forall_mem_cons.1 h
    rw [List.flatMap_cons]
    exact hb.append (ih hbs) (startsQuantifier_flatMap fun b _ => startsQuantifier_chars b)

theorem keepsBars_intercalate {bs : List Block} (h : ∀ b ∈ bs, KeepsBars b.chars) :
    KeepsBars (['|'].intercalate (bs.map chars)) := by
  match bs with
  | [] => exact keepsBars_nil
  | [b] => simpa using h
  | b :: b' :: bs =>
    obtain ⟨hb, hbs⟩ := List.forall_mem_cons.1 h
    have hstart : startsQuantifier (['|'].intercalate ((b' :: bs).map chars)) = false :=
      startsQuantifier_intercalate fun b _ => startsQuantifier_chars b
    rw [List.map_cons, List.map_cons, List.intercalate_cons_cons, List.append_assoc]
    exact hb.append (keepsBars_bar.append (keepsBars_intercalate hbs) hstart) rfl

theorem keepsBars_repetition {q : Quantifier} {body : Option Block}
    (h : ∀ b ∈ body, KeepsBars b.chars) : KeepsBars (repetition q body).chars := by
  intro rest hrest hshows
  have hquantifier := keepsBars_quantifier q rest hrest hshows
  rw [chars, List.append_assoc]
  cases hwrapped : isWrapped (charsOfBody body) with
  | false =>
    obtain ⟨b, c, hbrief, hrepeated, -⟩ := exists_brief_repeated hwrapped
    rw [hrepeated, List.singleton_append]
    exact hquantifier.brief hbrief
  | true =>
    cases body with
    | none => cases hwrapped
    | some b =>
      -- the quantifier stands behind the closing parenthesis, not behind the content
      have hclose := hquantifier.cons (Token.list_cons_of_scan rfl : Token.list (')' :: _) = _) rfl
      have hcontent := h b rfl _ rfl hclose
      have hopen := isScanned_nonCapturing _ (startsQuantifier_append (startsQuantifier_chars b)
        (rfl : startsQuantifier (')' :: (q.chars ++ rest)) = false))
      have hall := hcontent.cons hopen rfl
      rw [repeated_of_isWrapped hwrapped]
      simpa [charsOfBody, Opener.text] using hall

/-- In the pattern of a block without classes nothing misleads the test for a bar. -/
theorem keepsBars_chars {b : Block} (h : b.hasClass = false) : KeepsBars b.chars := by
  induction b with
  | literal text => exact keepsBars_escape text.toList
  | symbol s => exact keepsBars_symbol s
  | repetition q body ih =>
    refine keepsBars_repetition fun b hb => ih b hb ?_
    cases hb
    exact h
  | group bs ih =>
    have hcontent := keepsBars_flatMap fun b hb => ih b hb (hasClass_eq_false_of_mem h b hb)
    rw [chars_group]
    exact keepsBars_enclosed isScanned_capture rfl hcontent
      (startsQuantifier_flatMap fun b _ => startsQuantifier_chars b)
  | alternatives bs ih =>
    by_cases hbs : bs = []
    · subst hbs
      exact (keepsBars_escape ['a']).append (keepsBars_bar.append (keepsBars_escape ['b']) rfl) rfl
    · rw [chars_alternatives hbs]
      exact keepsBars_intercalate fun b hb => ih b hb (hasClass_eq_false_of_mem h b hb)
  | characterClass negated characters => cases h
  | lookaround k bs ih =>
    have hk : (Token.opener (.lookaround k)).hidesBar = false := by cases k <;> rfl
    rw [chars_lookaround, ← List.cons_append]
    refine keepsBars_enclosed (isScanned_lookaround k) hk ?_ ?_
    · split
      · exact keepsBars_escape lookaroundStandIn
      · exact keepsBars_flatMap fun b hb => ih b hb (hasClass_eq_false_of_mem h b hb)
    · split
      · rfl
      · exact startsQuantifier_flatMap fun b _ => startsQuantifier_chars b

/-- The test for a bar that is not escaped finds, in any text, a bar behind an even number of
backslashes, and in the pattern of a block without classes it finds the alternations of the
scan. -/
theorem hasBar_iff_even_and_alternation :
    (∀ cs : List Char, hasBar cs = true ↔
      ∃ before after, cs = before ++ '|' :: after ∧ Even (backslashRun before)) ∧
    ∀ b : Block, b.hasClass = false →
      (hasBar b.chars = true ↔ ∃ f ∈ explainPattern b.pattern, f.kind = .alternation) := by
  refine ⟨hasBar_iff, fun b hb => ?_⟩
  have hnil : ShowsBars [] := by
    rw [ShowsBars, Token.list]
    simp
  have hshows : ShowsBars b.chars := by
    have hchars := keepsBars_chars hb [] rfl hnil
    rwa [List.append_nil] at hchars
  rw [explainPattern, exists_alternation_iff, pattern, String.toList_ofList]
  exact Token.hasBar_iff_bar_mem hshows

theorem hasBar_iff_even_and_alternation_nested :
    (repetition .oneOrMore (some (group [literal "\\|", alternatives [literal "(", symbol .digit],
        lookaround .ahead []]))).hasClass = false ∧
      (hasBar (repetition .oneOrMore (some (group [literal "\\|",
          alternatives [literal "(", symbol .digit], lookaround .ahead []]))).chars = true ↔
        ∃ f ∈ explainPattern (repetition .oneOrMore (some (group [literal "\\|",
          alternatives [literal "(", symbol .digit], lookaround .ahead []]))).pattern,
          f.kind = .alternation) := by
  have h : (repetition .oneOrMore (some (group [literal "\\|",
      alternatives [literal "(", symbol .digit], lookaround .ahead []]))).hasClass = false := by
    decide
  exact ⟨h, hasBar_iff_even_and_alternation.2 _ h⟩

end Block

end PatternProse
