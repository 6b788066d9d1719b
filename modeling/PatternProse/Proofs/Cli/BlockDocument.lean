import PatternProse.Block.Document
import PatternProse.Proofs.Answers
import PatternProse.Proofs.Block.Rendering
import PatternProse.Proofs.Cli.Notation

/-!
# Escape characters in block documents

Of the texts of a document only strings and names of members are taken over: the kind of a node
into the refusal of an unknown one, and two of the parameters into the pattern. What else a refusal
repeats is a number or a quotation. So the pattern of a document and its refusal are inert if the
texts of the document are.

## Main definitions

* `Json.Tree.texts` — the texts that a tree stands for.
* `Cli.IsInertDocument` — documents whose texts have no escape characters.

## Main statements

* `Cli.IsInertDocument.answers` — the pattern of a document, or its refusal.
-/

namespace PatternProse

/-! ### Texts of trees -/

namespace Json

mutual

/-- The texts that a tree stands for: its strings and the names of its members, as far as they can
be taken in. -/
def Tree.texts : Tree → List String
  | .scalar (.ok (.string s)) _ => [s]
  | .scalar _ _ => []
  | .array _ items => items.texts
  | .object _ members => members.texts
  | .broken _ => []

/-- The texts of items. -/
def Items.texts : Items → List String
  | .done _ => []
  | .broken _ => []
  | .more _ value _ rest => value.texts ++ rest.texts

/-- The texts of members. -/
def Members.texts : Members → List String
  | .done _ => []
  | .broken _ => []
  | .more name _ value rest => name.toOption.toList ++ value.texts ++ rest.texts

end

/-- A string that is taken in is a text of its tree. -/
theorem answers_take (depth : Nat) (t : Tree) :
    Answers (fun _ => True) (fun v => ∀ s, v = .string s → s ∈ t.texts) (t.take depth) := by
  cases t with
  | scalar taken stop =>
    cases taken with
    | error p => exact .error trivial
    | ok scalar =>
      refine .ok ?_
      rintro s h
      cases scalar with
      | string =>
        cases h
        exact List.mem_singleton.2 rfl
      | _ => cases h
  | array start items =>
    rw [Tree.take]
    exact .bind .any fun _ _ => .bind .any fun _ _ => .ok (by rintro s ⟨⟩)
  | object start members =>
    rw [Tree.take]
    exact .bind .any fun _ _ => .bind .any fun _ _ => .ok (by rintro s ⟨⟩)
  | broken fault => exact .error trivial

theorem mem_insert {name n : String} {value v : Json} {ms : List (String × Json)}
    (h : (n, v) ∈ insert name value ms) : (n, v) = (name, value) ∨ (n, v) ∈ ms := by
  fun_induction insert name value ms with
  | case1 => exact .inl (List.mem_singleton.1 h)
  | case2 => exact List.mem_cons.1 h
  | case3 =>
    rcases List.mem_cons.1 h with h | h
    · exact .inl h
    · exact .inr (.tail _ h)
  | case4 _ _ _ _ _ ih =>
    rcases List.mem_cons.1 h with h | h
    · exact .inr (h ▸ .head _)
    · exact (ih h).imp_right (.tail _)

end Json

/-! ### Problems -/

namespace Cli

open Block
open Json (Tree Items Members SyntaxProblem Problem)

theorem isInert_syntaxProblem (p : SyntaxProblem) : IsInert p.message := by
  cases p <;> exact isInert_literal rfl

/-- The texts about a kind have no escape characters. -/
theorem isInert_kind (k : Kind) : IsInert k.name ∧ IsInert k.label ∧ IsInert k.description := by
  cases k with
  | literal | group | alternatives =>
    exact ⟨isInert_literal rfl, isInert_literal rfl, isInert_literal rfl⟩
  | symbol s => cases s <;> exact ⟨isInert_literal rfl, isInert_literal rfl, isInert_literal rfl⟩
  | repetition form =>
    cases form <;> exact ⟨isInert_literal rfl, isInert_literal rfl, isInert_literal rfl⟩
  | characterClass negated =>
    cases negated <;> exact ⟨isInert_literal rfl, isInert_literal rfl, isInert_literal rfl⟩
  | lookaround k =>
    cases k <;> exact ⟨isInert_literal rfl, isInert_literal rfl, isInert_literal rfl⟩

theorem isInert_found (f : Found) : IsInert f.text := by
  cases f with
  | array | object => exact isInert_literal rfl
  | scalar value =>
    cases value with
    | null => exact isInert_literal rfl
    | bool b =>
      cases b <;> exact .append (.append (isInert_literal rfl) (isInert_literal rfl))
        (isInert_literal rfl)
    | number n =>
      cases n <;> exact .append (.append (isInert_literal rfl) (isInert_number _))
        (isInert_literal rfl)
    | string s => exact .append (isInert_literal rfl) (isInert_quotation s)

theorem isInert_nodeProblem_message {p : NodeProblem}
    (h : ∀ name, p = .unknownKind name → IsInert name) : IsInert p.message := by
  cases p with
  | unknownKind name =>
    exact .append (.append (isInert_literal rfl) (h name rfl)) (isInert_literal rfl)
  | severalChildren kind count =>
    exact .append (.append (isInert_kind kind).1 (isInert_literal rfl)) (isInert_decimal count)

/-- A reader's answer whose problem is worded without an escape character. -/
abbrev ReadsInert {α : Type} (A : α → Prop) (r : Reads α) : Prop :=
  Answers (fun p => IsInert p.cause.message) A r

theorem isInert_unexpected (expected : Expected) (t : Tree) :
    IsInert (unexpected expected t).cause.message := by
  have hfound (found : Found) : IsInert (ReadProblem.unexpected found expected).message := by
    refine .append (.append (.append (isInert_literal rfl) (isInert_found found))
      (isInert_literal rfl)) ?_
    cases expected <;> exact isInert_literal rfl
  cases t with
  | scalar taken stop =>
    cases taken with
    | ok s => exact hfound _
    | error p => exact isInert_syntaxProblem _
  | array | object => exact hfound _
  | broken fault => exact isInert_syntaxProblem _

theorem isInert_field (f : Field) : IsInert f.name := by
  cases f <;> exact isInert_literal rfl

theorem isInert_missing (f : Field) : IsInert (ReadProblem.missing f).message :=
  .append (.append (isInert_literal rfl) (isInert_field f)) (isInert_literal rfl)

theorem isInert_duplicate (f : Field) : IsInert (ReadProblem.duplicate f).message :=
  .append (.append (isInert_literal rfl) (isInert_field f)) (isInert_literal rfl)

theorem readsInert_lift {α : Type} {A : α → Prop} {r : Except (Problem SyntaxProblem) α}
    (h : Answers (fun _ => True) A r) : ReadsInert A (lift r) := by
  cases h with
  | ok h => exact .ok h
  | error => exact .error (isInert_syntaxProblem _)

/-! ### Nodes -/

/-- Whether no parameter is a text with an escape character. -/
def HasInertTexts (params : List (String × Json)) : Prop :=
  ∀ name s, (name, Json.string s) ∈ params → IsInert s

/-- Nodes whose kinds and textual parameters have no escape characters. -/
inductive IsInertNode : Node → Prop
  | mk {kind : String} {params : List (String × Json)} {children : List Node}
    (hkind : IsInert kind) (hparams : HasInertTexts params)
    (hchildren : ∀ n ∈ children, IsInertNode n) : IsInertNode (.mk kind params children)

theorem HasInertTexts.insert {params : List (String × Json)} (h : HasInertTexts params)
    {value : Json} (hvalue : ∀ s, value = .string s → IsInert s) (name : String) :
    HasInertTexts (Json.insert name value params) := by
  intro n s hmem
  rcases Json.mem_insert hmem with heq | hmem
  · exact hvalue s (Prod.ext_iff.1 heq).2.symm
  · exact h n s hmem

theorem readsInert_readText {t : Tree} (ht : ∀ s ∈ t.texts, IsInert s) :
    ReadsInert IsInert (readText t) := by
  unfold readText
  split
  · next s stop => exact .ok (ht s (List.mem_singleton.2 rfl))
  · exact .error (isInert_unexpected _ _)

/-- The texts of a member and of the members after it. -/
theorem forall_mem_texts_more {name : Except (Problem SyntaxProblem) String} {closing : Nat}
    {value : Tree} {rest : Members}
    (h : ∀ s ∈ (Members.more name closing value rest).texts, IsInert s) :
    (∀ s ∈ value.texts, IsInert s) ∧ ∀ s ∈ rest.texts, IsInert s := by
  rw [Members.texts, List.append_assoc, List.forall_mem_append, List.forall_mem_append] at h
  exact h.2

theorem answers_take_members (depth : Nat) {taken : List (String × Json)}
    (htaken : HasInertTexts taken) : (members : Members) → (∀ s ∈ members.texts, IsInert s) →
      Answers (fun _ => True) HasInertTexts (members.take depth taken)
  | .done _, _ => .ok htaken
  | .broken _, _ => .error trivial
  | .more name _ value rest, h => by
    obtain ⟨hvalue, hrest⟩ := forall_mem_texts_more h
    rw [Members.take]
    refine .bind .any fun name _ => .bind (Json.answers_take depth value) fun v hv => ?_
    have hinert : ∀ s, v = .string s → IsInert s := fun s hs => hvalue s (hv s hs)
    exact answers_take_members depth (htaken.insert hinert name) rest hrest

theorem readsInert_readParams (depth : Nat) {t : Tree} (ht : ∀ s ∈ t.texts, IsInert s) :
    ReadsInert HasInertTexts (readParams depth t) := by
  unfold readParams
  split
  · next start members =>
    refine readsInert_lift (.bind .any fun depth _ => answers_take_members depth ?_ members ht)
    intro name s hmem
    cases hmem
  · exact .error (isInert_unexpected _ _)

/-- Drafts of such nodes. -/
structure IsInertDraft (d : Draft) : Prop where
  kind : ∀ kind ∈ d.kind, IsInert kind
  params : ∀ params ∈ d.params, HasInertTexts params
  children : ∀ children ∈ d.children, ∀ n ∈ children, IsInertNode n

theorem IsInertDraft.readsInert_toNode {d : Draft} (h : IsInertDraft d) (stop : Nat) :
    ReadsInert IsInertNode (d.toNode stop) := by
  obtain ⟨kind, params, children⟩ := d
  cases kind with
  | none => exact .error (isInert_missing _)
  | some kind =>
    refine .ok (.mk (h.kind kind rfl) ?_ ?_)
    · cases params with
      | none =>
        intro name s hmem
        cases hmem
      | some params => exact h.params params rfl
    · cases children with
      | none => simp
      | some children => exact h.children children rfl

mutual

theorem readsInert_readNode (depth : Nat) : (t : Tree) → (∀ s ∈ t.texts, IsInert s) →
    ReadsInert IsInertNode (readNode depth t)
  | .object start members, h => by
    rw [readNode]
    refine .bind (readsInert_lift .any) fun depth _ => ?_
    exact readsInert_readMembers depth ⟨by simp, by simp, by simp⟩ members h
  | .array start items, h => by
    rw [readNode]
    exact .bind (readsInert_lift .any) fun depth _ => readsInert_readItems depth items h
  | .scalar _ _, _ => .error (isInert_unexpected _ _)
  | .broken _, _ => .error (isInert_unexpected _ _)

theorem readsInert_readMembers (depth : Nat) {draft : Draft} (hdraft : IsInertDraft draft) :
    (members : Members) → (∀ s ∈ members.texts, IsInert s) →
      ReadsInert IsInertNode (readMembers depth draft members)
  | .done stop, _ => hdraft.readsInert_toNode stop
  | .broken _, _ => .error (isInert_syntaxProblem _)
  | .more name closing value rest, h => by
    obtain ⟨hvalue, hrest⟩ := forall_mem_texts_more h
    rw [readMembers]
    refine .bind (readsInert_lift .any) fun name _ => ?_
    split
    · refine .bind (readsInert_lift .any) fun _ _ => ?_
      exact readsInert_readMembers depth hdraft rest hrest
    · split
      · exact .error (isInert_duplicate _)
      refine .bind (readsInert_readText hvalue) fun kind hkind => ?_
      have hread : IsInertDraft { draft with kind } := by
        refine ⟨?_, hdraft.params, hdraft.children⟩
        rintro _ ⟨⟩
        exact hkind
      exact readsInert_readMembers depth hread rest hrest
    · split
      · exact .error (isInert_duplicate _)
      refine .bind (readsInert_readParams depth hvalue) fun params hparams => ?_
      have hread : IsInertDraft { draft with params } := by
        refine ⟨hdraft.kind, ?_, hdraft.children⟩
        rintro _ ⟨⟩
        exact hparams
      exact readsInert_readMembers depth hread rest hrest
    · split
      · exact .error (isInert_duplicate _)
      refine .bind (readsInert_readChildren depth value hvalue) fun children hchildren => ?_
      have hread : IsInertDraft { draft with children } := by
        refine ⟨hdraft.kind, hdraft.params, ?_⟩
        rintro _ ⟨⟩
        exact hchildren
      exact readsInert_readMembers depth hread rest hrest

theorem readsInert_readItems (depth : Nat) : (items : Items) → (∀ s ∈ items.texts, IsInert s) →
    ReadsInert IsInertNode (readItems depth items)
  | .done _, _ => .error (isInert_literal rfl)
  | .broken _, _ => .error (isInert_syntaxProblem _)
  | .more _ kind _ rest, h => by
    obtain ⟨hkind, h⟩ := List.forall_mem_append.1 h
    have hnone : HasInertTexts [] := fun name s hmem => nomatch hmem
    have hchildless : ∀ n ∈ ([] : List Node), IsInertNode n := by simp
    rw [readItems]
    refine .bind (readsInert_readText hkind) fun kind hkind => ?_
    match rest, h with
    | .done _, _ => exact .ok (.mk hkind hnone hchildless)
    | .broken _, _ => exact .error (isInert_syntaxProblem _)
    | .more _ params _ rest, h =>
      obtain ⟨hparams, h⟩ := List.forall_mem_append.1 h
      refine .bind (readsInert_readParams depth hparams) fun params hparams => ?_
      match rest, h with
      | .done _, _ => exact .ok (.mk hkind hparams hchildless)
      | .broken _, _ => exact .error (isInert_syntaxProblem _)
      | .more _ children _ rest, h =>
        obtain ⟨hchildren, -⟩ := List.forall_mem_append.1 h
        refine .bind (readsInert_readChildren depth children hchildren) fun ns hns => ?_
        match rest with
        | .done _ => exact .ok (.mk hkind hparams hns)
        | .broken _ => exact .error (isInert_syntaxProblem _)
        | .more _ _ _ _ => exact .error (isInert_literal rfl)

theorem readsInert_readChildren (depth : Nat) : (t : Tree) → (∀ s ∈ t.texts, IsInert s) →
    ReadsInert (fun ns => ∀ n ∈ ns, IsInertNode n) (readChildren depth t)
  | .array start items, h => by
    rw [readChildren]
    exact .bind (readsInert_lift .any) fun depth _ => readsInert_readNodes depth items h
  | .object _ _, _ => .error (isInert_unexpected _ _)
  | .scalar _ _, _ => .error (isInert_unexpected _ _)
  | .broken _, _ => .error (isInert_unexpected _ _)

theorem readsInert_readNodes (depth : Nat) : (items : Items) → (∀ s ∈ items.texts, IsInert s) →
    ReadsInert (fun ns => ∀ n ∈ ns, IsInertNode n) (readNodes depth items)
  | .done _, _ => .ok (by simp)
  | .broken _, _ => .error (isInert_syntaxProblem _)
  | .more _ value _ rest, h => by
    obtain ⟨hvalue, hrest⟩ := List.forall_mem_append.1 h
    rw [readNodes]
    refine .bind (readsInert_readNode depth value hvalue) fun node hnode => ?_
    refine .bind (readsInert_readNodes depth rest hrest) fun nodes hnodes => ?_
    exact .ok (List.forall_mem_cons.2 ⟨hnode, hnodes⟩)

end

/-! ### Patterns of blocks -/

theorem escapeCharacter_notMem_quantifier (q : Quantifier) : escapeCharacter ∉ q.chars := by
  have hdigits := escapeCharacter_notMem_digits
  cases q with
  | zeroOrMore | oneOrMore | zeroOrOne => decide
  | exactly n | atLeast n =>
    exact List.not_mem_append (List.not_mem_cons_of_ne_of_not_mem (by decide) (hdigits _))
      (by decide)
  | between n m =>
    exact List.not_mem_append (List.not_mem_append
      (List.not_mem_cons_of_ne_of_not_mem (by decide) (hdigits _))
      (List.not_mem_cons_of_ne_of_not_mem (by decide) (hdigits _))) (by decide)

theorem escapeCharacter_notMem_escape (specials : List Char) {cs : List Char}
    (h : escapeCharacter ∉ cs) : escapeCharacter ∉ escape specials cs := by
  rw [escape, List.mem_flatMap]
  rintro ⟨c, hc, hmem⟩
  have hne : escapeCharacter ≠ c := fun heq => h (heq ▸ hc)
  split at hmem
  · exact absurd hmem (List.not_mem_cons_of_ne_of_not_mem (by decide)
      (List.not_mem_cons_of_ne_of_not_mem hne List.not_mem_nil))
  · exact hne (List.mem_singleton.1 hmem)

theorem escapeCharacter_notMem_repeated {cs : List Char} (h : escapeCharacter ∉ cs) :
    escapeCharacter ∉ repeated cs := by
  rw [repeated]
  split
  · decide
  split
  · exact List.not_mem_append (List.not_mem_append (by decide) h) (by decide)
  · exact h

theorem escapeCharacter_notMem_flatMap_chars {bs : List Block}
    (h : ∀ b ∈ bs, escapeCharacter ∉ b.chars) : escapeCharacter ∉ bs.flatMap chars := by
  rw [List.mem_flatMap]
  rintro ⟨b, hb, hmem⟩
  exact h b hb hmem

theorem escapeCharacter_notMem_intercalate {bs : List Block}
    (h : ∀ b ∈ bs, escapeCharacter ∉ b.chars) :
    escapeCharacter ∉ ['|'].intercalate (bs.map chars) := by
  induction bs with
  | nil => decide
  | cons b bs ih =>
    obtain ⟨hb, hbs⟩ := List.forall_mem_cons.1 h
    cases bs with
    | nil => simpa using hb
    | cons b' bs =>
      rw [List.map_cons, List.map_cons, List.intercalate_cons_cons, ← List.map_cons]
      exact List.not_mem_append (List.not_mem_append hb (by decide)) (ih hbs)

/-- Whether no text among some settings has an escape character. -/
structure IsInertSettings (settings : Settings) : Prop where
  text : IsInert settings.text
  characters : IsInert settings.characters

/-- A block has an escape character from its settings or from the blocks it holds. -/
theorem IsInertSettings.escapeCharacter_notMem_chars {settings : Settings}
    (h : IsInertSettings settings) {bs : List Block} (hbs : ∀ b ∈ bs, escapeCharacter ∉ b.chars)
    (kind : Kind) : escapeCharacter ∉ (ofKind settings bs kind).chars := by
  have hall := escapeCharacter_notMem_flatMap_chars hbs
  cases kind with
  | literal => exact escapeCharacter_notMem_escape _ h.text
  | symbol s =>
    have hsymbol : escapeCharacter ∉ s.chars := by cases s <;> decide
    exact hsymbol
  | repetition form =>
    refine List.not_mem_append (escapeCharacter_notMem_repeated ?_)
      (escapeCharacter_notMem_quantifier _)
    cases bs with
    | nil => exact List.not_mem_nil
    | cons b bs => exact hbs b (.head _)
  | group =>
    rw [ofKind, chars_group]
    refine List.not_mem_cons_of_ne_of_not_mem (by decide) ?_
    exact List.not_mem_append hall (by decide)
  | alternatives =>
    rw [ofKind]
    by_cases hnil : bs = []
    · subst hnil
      decide
    · rw [chars_alternatives hnil]
      exact escapeCharacter_notMem_intercalate hbs
  | characterClass negated =>
    have hcontents : escapeCharacter ∉ classContents settings.characters := by
      rw [classContents]
      split
      · decide
      · exact h.characters
    have hmark : escapeCharacter ∉ if negated then ['^'] else [] := by
      cases negated <;> decide
    rw [ofKind, chars_characterClass]
    refine List.not_mem_cons_of_ne_of_not_mem (by decide) ?_
    exact List.not_mem_append hmark
      (List.not_mem_append (escapeCharacter_notMem_escape _ hcontents) (by decide))
  | lookaround k =>
    have hmark : escapeCharacter ∉ k.mark := by cases k <;> decide
    have hcontent : escapeCharacter ∉
        if (bs.flatMap chars).isEmpty then lookaroundStandIn else bs.flatMap chars := by
      split
      · decide
      · exact hall
    rw [ofKind, chars_lookaround]
    refine List.not_mem_cons_of_ne_of_not_mem (by decide) ?_
    exact List.not_mem_append hmark (List.not_mem_append hcontent (by decide))

/-! ### Blocks of nodes -/

theorem HasInertTexts.getD_textOf? {params : List (String × Json)} (h : HasInertTexts params)
    (name : String) {fallback : String} (hfallback : IsInert fallback) :
    IsInert (((params.lookup name).bind textOf?).getD fallback) := by
  cases hlookup : params.lookup name with
  | none => exact hfallback
  | some value =>
    cases value with
    | string s =>
      obtain ⟨before, after, heq, -⟩ := List.lookup_eq_some_iff.1 hlookup
      exact h name s (heq ▸ List.mem_append_right _ (.head _))
    | _ => exact hfallback

theorem HasInertTexts.ofParams {params : List (String × Json)} (h : HasInertTexts params) :
    IsInertSettings (.ofParams params) where
  text := h.getD_textOf? _ (isInert_literal rfl)
  characters := h.getD_textOf? _ (isInert_literal rfl)

/-- An answer that is a block without an escape character, or a problem worded without one. -/
abbrev AnswersInert (r : Except NodeProblem Block) : Prop :=
  Answers (fun p => IsInert p.message) (fun b => escapeCharacter ∉ b.chars) r

theorem answersInert_assemble {name : String} (hname : IsInert name) {settings : Settings}
    (hsettings : IsInertSettings settings) {bs : List Block}
    (hbs : ∀ b ∈ bs, escapeCharacter ∉ b.chars) : AnswersInert (assemble name settings bs) := by
  unfold assemble
  split
  · refine .error (isInert_nodeProblem_message ?_)
    rintro _ ⟨⟩
    exact hname
  · split
    · exact .error (isInert_nodeProblem_message nofun)
    · exact .ok (hsettings.escapeCharacter_notMem_chars hbs _)

mutual

theorem answersInert_ofNode? : (n : Node) → IsInertNode n → AnswersInert (ofNode? n)
  | .mk kind params children, h => by
    cases h with
    | mk hkind hparams hchildren =>
      rw [ofNode?]
      refine .bind (answersInert_ofNodes? children hchildren) fun bs hbs => ?_
      exact answersInert_assemble hkind hparams.ofParams hbs

theorem answersInert_ofNodes? : (ns : List Node) → (∀ n ∈ ns, IsInertNode n) →
    Answers (fun p => IsInert p.message) (fun bs => ∀ b ∈ bs, escapeCharacter ∉ b.chars)
      (ofNodes? ns)
  | [], _ => .ok (by simp)
  | n :: ns, h => by
    rw [ofNodes?]
    refine .bind (answersInert_ofNode? n (h n (.head _))) fun b hb => ?_
    refine .bind (answersInert_ofNodes? ns fun m hm => h m (.tail _ hm)) fun bs hbs => ?_
    exact .ok (List.forall_mem_cons.2 ⟨hb, hbs⟩)

end

/-! ### Documents -/

theorem readsInert_readBlocks (depth : Nat) : (items : Items) → (∀ s ∈ items.texts, IsInert s) →
    ReadsInert (fun bs => ∀ b ∈ bs, escapeCharacter ∉ b.chars) (readBlocks depth items)
  | .done _, _ => .ok (by simp)
  | .broken _, _ => .error (isInert_syntaxProblem _)
  | .more _ value _ rest, h => by
    obtain ⟨hvalue, hrest⟩ := List.forall_mem_append.1 h
    rw [readBlocks]
    refine .bind (readsInert_readNode depth value hvalue) fun node hnode => ?_
    have hblock := answersInert_ofNode? node hnode
    split
    · next p hp => exact .error (.append (isInert_literal rfl) (hblock.of_error hp))
    · next b hb =>
      refine .bind (readsInert_readBlocks depth rest hrest) fun bs hbs => ?_
      exact .ok (List.forall_mem_cons.2 ⟨hblock.of_ok hb, hbs⟩)

/-- Whether no text of a document has an escape character. -/
def IsInertDocument (document : String) : Prop :=
  ∀ s ∈ (Json.Document.ofText document).tree.texts, IsInert s

theorem readsInert_read {t : Tree} (h : ∀ s ∈ t.texts, IsInert s) :
    ReadsInert (fun bs => ∀ b ∈ bs, escapeCharacter ∉ b.chars) (ofDocument?.read t) := by
  unfold ofDocument?.read
  split
  · exact .bind (readsInert_lift .any) fun depth _ => readsInert_readBlocks depth _ h
  · exact .error (isInert_unexpected _ _)

theorem isInert_locate (text : String) {p : Problem ReadProblem} (h : IsInert p.cause.message) :
    IsInert (DocumentProblem.locate text p).message :=
  .append (.append (.append (.append h (isInert_literal rfl)) (isInert_decimal _))
    (isInert_literal rfl)) (isInert_decimal _)

/-- A document is refused, or has blocks, without an escape character. -/
theorem IsInertDocument.answers {document : String} (h : IsInertDocument document) :
    Answers (fun p => IsInert (InvalidBlocks.document p).message)
      (fun bs => IsInert (formatAll bs)) (ofDocument? document) := by
  have hread := readsInert_read h
  rw [ofDocument?, readDocument]
  split
  · next bs hbs _ =>
    exact .ok (isInert_ofList (escapeCharacter_notMem_flatMap_chars (hread.of_ok hbs)))
  · exact .error (.append (isInert_literal rfl) (isInert_locate _ (isInert_syntaxProblem _)))
  · next p hp =>
    exact .error (.append (isInert_literal rfl) (isInert_locate _ (hread.of_error hp)))

end Cli

end PatternProse
