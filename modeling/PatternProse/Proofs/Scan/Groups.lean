import Mathlib.Data.List.Chain
import PatternProse.Proofs.Regex.Running
import PatternProse.Proofs.Scan.Accepted

/-!
# Capture groups of valid patterns

The fragments of a valid pattern that are explained as capture groups are its capture groups, each
with its name, wherever the scan finds the parentheses that are read. A name with characters or
escapes that the scan does not know is the only other thing that they can differ in.

## Main definitions

* `Fragment.isCapture` — whether a fragment is explained as a capture group.
* `captureSentence` — the sentence of a capture group with or without a name.

The main statement is `captures_explainPattern`.
-/

namespace PatternProse

open Regex

/-- The sentence that explains a capture group with or without a name. -/
def captureSentence : Option String → String
  | none => Opener.capture.sentence
  | some name => (Opener.named name.toList).sentence

/-- Whether a fragment is explained as a capture group. -/
def Fragment.isCapture (f : Fragment) : Bool :=
  f.kind == .group && (f.explanation == Opener.capture.sentence ||
    "Named capture group ".toList.isPrefixOf f.explanation.toList)

/-- The name of the capture group that a token opens, if it opens one. -/
def Token.captured? : Token → Option (Option String)
  | opener o => o.captured?
  | _ => none

/-- What an opener tells of capture groups. -/
inductive GroupMark
  | group (name : Option String)
  /-- A group with a name that the scan does not know. -/
  | hidden
  deriving DecidableEq

/-- The mark that a token leaves. A name that the scan does not know stands in a literal. -/
def groupMark : Token → List Token → Option GroupMark
  | .opener .special, .literal ('<' :: _) :: _ => some .hidden
  | t, _ => t.captured?.map .group

theorem isBlind_groupMark : IsBlind groupMark := by
  intro t ts h
  cases t with
  | opener o => cases h
  | _ => rfl

theorem groupMark_of_ne {t : Token} {ts : List Token} (h : groupMark t ts ≠ some .hidden) :
    groupMark t ts = t.captured?.map .group := by
  unfold groupMark at h ⊢
  split
  · exact absurd rfl h
  · rfl

/-- Where no name is hidden, the marks are the names of the groups. -/
theorem marks_groupMark {ts : List Token}
    (h : ts.IsChain fun s t => s = .opener .special → t.text.head? ≠ some '<') :
    marks groupMark ts = (ts.filterMap Token.captured?).map .group := by
  induction ts with
  | nil => rfl
  | cons t ts ih =>
    have hne : groupMark t ts ≠ some .hidden := by
      unfold groupMark
      split
      · exact absurd rfl ((List.isChain_cons_cons.1 h).1 rfl)
      · cases t.captured? <;> simp
    rw [marks, groupMark_of_ne hne, ih h.tail, List.filterMap_cons]
    cases t.captured? <;> rfl

/-! ### Steps -/

namespace Regex.ParseState

/-- A step moves the names of groups from the text to the state and loses none. -/
theorem names_of_step {scope : Scope} {st st' : ParseState} {c : Char} {cs rest : List Char}
    (h : step scope st c cs = .ok (st', rest)) (hclear : IsClear st.flags.unicode (c :: cs))
    (hhidden : .hidden ∉ marks groupMark (Token.list (c :: cs))) :
    st'.names.reverse.map .group ++ marks groupMark (Token.list rest) =
      st.names.reverse.map .group ++ marks groupMark (Token.list (c :: cs)) := by
  obtain ⟨rfl, hrest, -, hnames⟩ | ⟨rfl, hrest, -, hnames⟩ | ⟨hrest, -, hnames⟩ :=
    level_cases h hclear
  · have hlist : Token.list ('(' :: cs) =
        .opener (Opener.scan cs).1 :: Token.list (Opener.scan cs).2 := Token.list_cons_of_scan rfl
    rw [hlist, marks] at hhidden ⊢
    rw [← hrest.marks_eq isBlind_groupMark]
    have hne : groupMark (.opener (Opener.scan cs).1) (Token.list (Opener.scan cs).2) ≠
        some .hidden := by
      intro heq
      rw [heq] at hhidden
      exact hhidden (.head _)
    rw [groupMark_of_ne hne, Token.captured?]
    obtain hnames | ⟨hspecial, hhead⟩ := hnames
    · rw [hnames]
      cases (Opener.scan cs).1.captured? <;> simp
    · obtain ⟨ds, hds⟩ := List.head?_eq_some_iff.1 hhead
      rw [hspecial, hds, Token.list_cons_of_scan (Token.scan_ordinary rfl ds)] at hne
      exact absurd rfl hne
  · have hlist : Token.list (')' :: cs) = .close :: Token.list cs := Token.list_cons_of_scan rfl
    rw [hnames, hlist, ← hrest.marks_eq isBlind_groupMark]
    rfl
  · rw [hnames, hrest.marks_eq isBlind_groupMark]

/-- At the end all names have been moved to the regular expression. -/
theorem groups_of_finish {scope : Scope} {st : ParseState} {cs : List Char} {re : Regex}
    (h : finish scope st cs = .ok re) (huniform : st.IsUniform)
    (hclear : IsClear st.flags.unicode cs)
    (hhidden : .hidden ∉ marks groupMark (Token.list cs)) :
    re.groups.map .group = st.names.reverse.map .group ++ marks groupMark (Token.list cs) := by
  fun_induction finish scope st cs with
  | case1 st hframes =>
    cases h
    rw [Token.list, marks, List.append_nil]
  | case2 => cases h
  | case3 st c cs st' rest hstep ih =>
    obtain ⟨huniform', hunicode⟩ := huniform.step hstep (hclear.imp_right And.right)
    have hnames := names_of_step hstep hclear hhidden
    rw [← hnames]
    refine ih h huniform' (hunicode ▸ isClear_of_step hstep hclear) fun hmem => hhidden ?_
    have hall : GroupMark.hidden ∈
        st.names.reverse.map .group ++ marks groupMark (Token.list (c :: cs)) := by
      rw [← hnames]
      exact List.mem_append_right _ hmem
    simpa using hall
  | case4 => cases h

end Regex.ParseState

/-! ### Fragments -/

/-- What a text starts with does not depend on what is added to it. -/
theorem isPrefixOf_toList_append {s t : String} (h : s.toList.isPrefixOf t.toList = true)
    (u v : String) : s.toList.isPrefixOf (t ++ u ++ v).toList = true := by
  rw [List.isPrefixOf_iff_prefix] at h ⊢
  rw [String.toList_append, String.toList_append, List.append_assoc]
  exact h.trans (List.prefix_append _ _)

theorem isPrefixOf_sentence_named (name : List Char) :
    "Named capture group ".toList.isPrefixOf (Opener.named name).sentence.toList = true :=
  isPrefixOf_toList_append (by decide +kernel) _ _

theorem isCapture_opener (o : Opener) (depth : Nat) (span : Span) (text : String) :
    Fragment.isCapture ⟨text, o.sentence, depth, span, o.kind⟩ = o.captured?.isSome := by
  cases o with
  | capture =>
    rw [Fragment.isCapture, beq_self_eq_true]
    rfl
  | nonCapturing =>
    have hsentence : (Opener.nonCapturing.sentence == Opener.capture.sentence ||
        "Named capture group ".toList.isPrefixOf Opener.nonCapturing.sentence.toList) = false := by
      decide +kernel
    rw [Fragment.isCapture, hsentence]
    rfl
  | named name =>
    rw [Fragment.isCapture, isPrefixOf_sentence_named, Bool.or_true]
    rfl
  | lookaround k => rfl
  | special =>
    have hsentence : (Opener.special.sentence == Opener.capture.sentence ||
        "Named capture group ".toList.isPrefixOf Opener.special.sentence.toList) = false := by
      decide +kernel
    rw [Fragment.isCapture, hsentence]
    rfl

theorem captureSentence_of_captured? {o : Opener} {name : Option String}
    (h : o.captured? = some name) : captureSentence name = o.sentence := by
  cases o with
  | capture => cases h; rfl
  | named name => cases h; rw [captureSentence, String.toList_ofList]
  | _ => cases h

theorem eq_of_append_eq {s t u v : String} (h : s ++ u ++ t = s ++ v ++ t) : u = v := by
  have hlist := congrArg String.toList h
  simp only [String.toList_append] at hlist
  exact String.toList_inj.1 (List.append_cancel_left (List.append_cancel_right hlist))

/-- The name of a group, or that it has none, can be told from its sentence. -/
theorem captureSentence_injective {name name' : Option String}
    (h : captureSentence name = captureSentence name') : name = name' := by
  have hcapture :
      "Named capture group ".toList.isPrefixOf Opener.capture.sentence.toList = false := by
    decide +kernel
  cases name with
  | none =>
    cases name' with
    | none => rfl
    | some name' =>
      have hprefix := isPrefixOf_sentence_named name'.toList
      rw [← captureSentence, ← h, captureSentence, hcapture] at hprefix
      cases hprefix
  | some name =>
    cases name' with
    | none =>
      have hprefix := isPrefixOf_sentence_named name.toList
      rw [← captureSentence, h, captureSentence, hcapture] at hprefix
      cases hprefix
    | some name' =>
      have hname := eq_of_append_eq h
      rw [String.ofList_toList, String.ofList_toList] at hname
      rw [hname]

theorem map_explanation_fragmentsFrom (ls : Levels) (offset : Nat) (ts : List Token) :
    ((fragmentsFrom ls offset ts).filter Fragment.isCapture).map Fragment.explanation =
      (ts.filterMap Token.captured?).map captureSentence := by
  induction ts generalizing ls offset with
  | nil => rfl
  | cons t ts ih =>
    cases hexplain : t.explain? ls.item with
    | none =>
      obtain rfl := Token.eq_close_of_explain? hexplain
      rw [fragmentsFrom_close_cons, ih]
      rfl
    | some r =>
      rw [fragmentsFrom_cons_of_explain? hexplain, List.filter_cons]
      cases t with
      | opener o =>
        cases hexplain
        rw [isCapture_opener, List.filterMap_cons, Token.captured?]
        cases hcaptured : o.captured? with
        | none => exact ih _ _
        | some name =>
          rw [Option.isSome_some, if_pos rfl, List.map_cons, List.map_cons, ih,
            captureSentence_of_captured? hcaptured]
      | close => cases hexplain
      | characterSet negated => cases negated <;> (cases hexplain; exact ih _ _)
      | _ => cases hexplain; exact ih _ _

theorem forall₂_of_map_eq {α β γ : Type} {f : α → γ} {g : β → γ} {as : List α} {bs : List β}
    (h : as.map f = bs.map g) : List.Forall₂ (fun a b => f a = g b) as bs := by
  rw [← List.forall₂_eq_eq_eq, List.forall₂_map_left_iff, List.forall₂_map_right_iff] at h
  exact h

/-- The fragments of a valid pattern that are explained as capture groups are in order its capture
groups, with the same names, and every match has as many groups. The pattern has the flag `u`, or
else no brace of it hides a parenthesis, a bracket or a backslash and every `\x` stands before two
digits; and the scan knows the names of groups: no other opener stands before `<`. -/
theorem captures_explainPattern {pattern flags : String} {re : Regex}
    (h : compile pattern flags = .ok re)
    (hclear : Flag.unicode.isIn flags = true ∨
      (∀ token lazy, .quantifier token lazy ∈ Token.list pattern.toList →
        token.any isStructural = false) ∧ hexComplete pattern.toList = true)
    (hnames : (Token.list pattern.toList).IsChain fun s t =>
      s = .opener .special → t.text.head? ≠ some '<') :
    List.Forall₂ (fun f name => ∀ name', f.explanation = captureSentence name' ↔ name = name')
        ((explainPattern pattern).filter Fragment.isCapture) re.groups ∧
      ∀ text, ∃ ms, findMatches pattern flags text = .ok ms ∧ ∀ m ∈ ms,
        m.groups.length = ((explainPattern pattern).filter Fragment.isCapture).length := by
  obtain ⟨groups, hfinish⟩ := exists_finish_of_compile h
  have huniform := ParseState.isUniform_start (Flags.ofString flags)
  have hmarks := marks_groupMark hnames
  have hhidden : .hidden ∉ marks groupMark (Token.list pattern.toList) := by
    rw [hmarks]
    simp
  have hgroups := ParseState.groups_of_finish hfinish huniform (isClear_of_list hclear) hhidden
  have hcaptured : re.groups = (Token.list pattern.toList).filterMap Token.captured? := by
    rw [hmarks] at hgroups
    exact List.map_injective_iff.2 (fun _ _ => GroupMark.group.inj) hgroups
  have hexplanation :
      ((explainPattern pattern).filter Fragment.isCapture).map Fragment.explanation =
        re.groups.map captureSentence := by
    rw [explainPattern, map_explanation_fragmentsFrom, hcaptured]
  have hsame := forall₂_of_map_eq hexplanation
  refine ⟨hsame.imp fun f name hf name' => ?_, fun text => ?_⟩
  · rw [hf]
    exact ⟨captureSentence_injective, congrArg captureSentence⟩
  · rw [hsame.length_eq]
    exact length_groups_of_findMatches h text

theorem captures_explainPattern_named :
    ∃ re, compile "(a)(?<year>\\d\x7b4\x7d)(?:b)" "" = .ok re ∧
      ((∀ token lazy, .quantifier token lazy ∈
          Token.list "(a)(?<year>\\d\x7b4\x7d)(?:b)".toList → token.any isStructural = false) ∧
        hexComplete "(a)(?<year>\\d\x7b4\x7d)(?:b)".toList = true) ∧
      ((Token.list "(a)(?<year>\\d\x7b4\x7d)(?:b)".toList).IsChain fun s t =>
        s = .opener .special → t.text.head? ≠ some '<') ∧
      re.groups = [none, some "year"] ∧
      List.Forall₂ (fun f name => ∀ name', f.explanation = captureSentence name' ↔ name = name')
        ((explainPattern "(a)(?<year>\\d\x7b4\x7d)(?:b)").filter Fragment.isCapture) re.groups ∧
      ∀ text, ∃ ms, findMatches "(a)(?<year>\\d\x7b4\x7d)(?:b)" "" text = .ok ms ∧ ∀ m ∈ ms,
        m.groups.length = ((explainPattern "(a)(?<year>\\d\x7b4\x7d)(?:b)").filter
          Fragment.isCapture).length := by
  have hlist : Token.list "(a)(?<year>\\d\x7b4\x7d)(?:b)".toList =
      [.opener .capture, .literal ['a'], .close, .opener (.named ['y', 'e', 'a', 'r']),
        .escape (some 'd'), .quantifier ['\x7b', '4', '\x7d'] false, .close,
        .opener .nonCapturing, .literal ['b'], .close] := by decide +kernel
  have hbraces : ∀ token lazy, .quantifier token lazy ∈
      Token.list "(a)(?<year>\\d\x7b4\x7d)(?:b)".toList → token.any isStructural = false := by
    rw [hlist]
    intro token lazy h
    simp only [List.mem_cons, List.not_mem_nil, reduceCtorEq, false_or, or_false,
      Token.quantifier.injEq] at h
    rw [h.1]
    decide
  have hhex : hexComplete "(a)(?<year>\\d\x7b4\x7d)(?:b)".toList = true := by decide
  have hnames : (Token.list "(a)(?<year>\\d\x7b4\x7d)(?:b)".toList).IsChain fun s t =>
      s = .opener .special → t.text.head? ≠ some '<' := by
    rw [hlist]
    simp
  have hgroups : ((compile "(a)(?<year>\\d\x7b4\x7d)(?:b)" "").toOption.map Regex.groups) =
      some [none, some "year"] := by decide +kernel
  cases hre : compile "(a)(?<year>\\d\x7b4\x7d)(?:b)" "" with
  | error e =>
    rw [hre] at hgroups
    cases hgroups
  | ok re =>
    rw [hre] at hgroups
    exact ⟨re, rfl, ⟨hbraces, hhex⟩, hnames, Option.some.inj hgroups,
      captures_explainPattern hre (.inr ⟨hbraces, hhex⟩) hnames⟩

end PatternProse
