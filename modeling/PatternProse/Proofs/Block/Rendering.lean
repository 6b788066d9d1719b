import PatternProse.Block.Pattern
import PatternProse.Proofs.Quantifier

/-!
# The form of a block's pattern

What the pattern of every block has in common, whatever the block holds: it never starts with
what the text before it would take for a quantifier, and it is written as less than two characters
only by blocks that nothing can be written inside of.

## Main definitions

* `Block.structural` — induction over a block and the blocks it holds.
* `Block.isWrapped` — whether a quantifier needs a group around what it is written after.
* `Block.Brief` — blocks that need none.
-/

namespace PatternProse.Block

/-- Induction over a block, where each block that it holds has the property already. -/
@[elab_as_elim, induction_eliminator]
theorem structural {motive : Block → Prop}
    (literal : ∀ text, motive (literal text))
    (symbol : ∀ s, motive (symbol s))
    (repetition : ∀ q body, (∀ b ∈ body, motive b) → motive (repetition q body))
    (group : ∀ bs, (∀ b ∈ bs, motive b) → motive (group bs))
    (alternatives : ∀ bs, (∀ b ∈ bs, motive b) → motive (alternatives bs))
    (characterClass : ∀ negated characters, motive (characterClass negated characters))
    (lookaround : ∀ k bs, (∀ b ∈ bs, motive b) → motive (lookaround k bs)) (b : Block) :
    motive b := by
  refine @Block.rec motive (fun body => ∀ b ∈ body, motive b) (fun bs => ∀ b ∈ bs, motive b)
    literal symbol repetition group alternatives characterClass lookaround ?none ?some ?nil ?cons b
  case none =>
    intro b hb
    cases hb
  case some =>
    intro b ih c hc
    cases hc
    exact ih
  case nil =>
    intro b hb
    cases hb
  case cons =>
    intro b bs ih ihs c hc
    rcases List.mem_cons.1 hc with rfl | hc
    · exact ih
    · exact ihs c hc

theorem flatten_charsOfEach (bs : List Block) : (charsOfEach bs).flatten = bs.flatMap chars := by
  rw [charsOfEach_eq_map, List.flatMap_def]

theorem chars_group (bs : List Block) : (group bs).chars = '(' :: (bs.flatMap chars ++ [')']) := by
  rw [chars, flatten_charsOfEach, List.cons_append]

theorem chars_alternatives {bs : List Block} (h : bs ≠ []) :
    (alternatives bs).chars = ['|'].intercalate (bs.map chars) := by
  rw [chars, charsOfEach_eq_map, if_neg (by simpa using h)]

theorem chars_lookaround (k : Lookaround) (bs : List Block) :
    (lookaround k bs).chars = '(' :: (k.mark ++ ((if (bs.flatMap chars).isEmpty then
      lookaroundStandIn else bs.flatMap chars) ++ [')'])) := by
  simp only [chars, flatten_charsOfEach, List.cons_append, List.append_assoc]

theorem chars_characterClass (negated : Bool) (characters : String) :
    (characterClass negated characters).chars = '[' :: ((if negated then ['^'] else []) ++
      (escape classSpecials (classContents characters) ++ [']'])) := by
  rw [chars, List.cons_append, List.cons_append, List.append_assoc]

theorem escape_cons_of_mem {specials : List Char} {c : Char} (h : c ∈ specials)
    (cs : List Char) : escape specials (c :: cs) = '\\' :: c :: escape specials cs := by
  simp [escape, h]

theorem escape_cons_of_notMem {specials : List Char} {c : Char} (h : c ∉ specials)
    (cs : List Char) : escape specials (c :: cs) = c :: escape specials cs := by
  simp [escape, h]

theorem length_le_length_escape (specials cs : List Char) :
    cs.length ≤ (escape specials cs).length := by
  induction cs with
  | nil => exact Nat.le_refl _
  | cons c cs ih =>
    by_cases h : c ∈ specials
    · simp only [escape_cons_of_mem h, List.length_cons]
      omega
    · simp only [escape_cons_of_notMem h, List.length_cons]
      omega

theorem startsQuantifier_escape (cs : List Char) :
    startsQuantifier (escape literalSpecials cs) = false := by
  cases cs with
  | nil => rfl
  | cons c cs =>
    by_cases h : c ∈ literalSpecials
    · rw [escape_cons_of_mem h]
      rfl
    · rw [escape_cons_of_notMem h]
      have hsub : ['*', '+', '?', '{'] ⊆ literalSpecials := by decide
      simpa [startsQuantifier] using fun hc => h (hsub hc)

theorem startsQuantifier_flatMap {bs : List Block}
    (h : ∀ b ∈ bs, startsQuantifier b.chars = false) :
    startsQuantifier (bs.flatMap chars) = false := by
  induction bs with
  | nil => rfl
  | cons b bs ih =>
    rw [List.flatMap_cons]
    exact startsQuantifier_append (h b List.mem_cons_self) (ih fun b hb => h b (.tail _ hb))

theorem startsQuantifier_intercalate {bs : List Block}
    (h : ∀ b ∈ bs, startsQuantifier b.chars = false) :
    startsQuantifier (['|'].intercalate (bs.map chars)) = false := by
  match bs with
  | [] => rfl
  | [b] => simpa using h
  | b :: b' :: bs =>
    rw [List.map_cons, List.map_cons, List.intercalate_cons_cons, List.append_assoc]
    exact startsQuantifier_append (h b List.mem_cons_self) rfl

/-- Whether a quantifier needs a group around some characters to apply to all of them. -/
def isWrapped (content : List Char) : Bool := content.length > 1 || hasBar content

theorem repeated_of_isWrapped {content : List Char} (h : isWrapped content = true) :
    repeated content = '(' :: '?' :: ':' :: (content ++ [')']) := by
  cases content with
  | nil => cases h
  | cons c cs =>
    rw [repeated, List.isEmpty_cons, if_neg (by decide)]
    exact if_pos h

theorem repeated_of_not_isWrapped {content : List Char} (h : isWrapped content = false) :
    repeated content = if content.isEmpty then ['.'] else content := by
  rw [isWrapped] at h
  rw [repeated, h]
  rfl

theorem repeated_ne_nil (content : List Char) : repeated content ≠ [] := by
  cases h : isWrapped content with
  | true => simp [repeated_of_isWrapped h]
  | false =>
    rw [repeated_of_not_isWrapped h]
    cases content <;> simp

theorem startsQuantifier_repeated {content : List Char} (h : startsQuantifier content = false) :
    startsQuantifier (repeated content) = false := by
  cases hwrapped : isWrapped content with
  | true => rw [repeated_of_isWrapped hwrapped]; rfl
  | false =>
    rw [repeated_of_not_isWrapped hwrapped]
    split
    · rfl
    · exact h

/-- What stands before a block is not quantified by it. -/
theorem startsQuantifier_chars (b : Block) : startsQuantifier b.chars = false := by
  induction b with
  | literal text => exact startsQuantifier_escape text.toList
  | symbol s => cases s <;> rfl
  | repetition q body ih =>
    rw [chars, startsQuantifier_append_of_ne_nil (repeated_ne_nil _)]
    refine startsQuantifier_repeated ?_
    cases body with
    | none => rfl
    | some b => exact ih b rfl
  | group bs => rfl
  | alternatives bs ih =>
    by_cases hbs : bs = []
    · subst hbs
      rfl
    · rw [chars_alternatives hbs]
      exact startsQuantifier_intercalate ih
  | characterClass negated characters => rfl
  | lookaround k bs => rfl

/-- Blocks that are written as the given characters, of which there is at most one. It is not a
bar. -/
inductive Brief : Block → List Char → Prop
  | blank : Brief (literal "") []
  | literal {text : String} {c : Char} :
    text.toList = [c] → c ∉ literalSpecials → Brief (literal text) [c]
  | symbol {s : Symbol} {c : Char} : s.chars = [c] → Brief (symbol s) [c]
  | alternatives {b : Block} {cs : List Char} : Brief b cs → Brief (alternatives [b]) cs

theorem not_isWrapped_length {cs : List Char} (h : isWrapped cs = false) : cs.length ≤ 1 := by
  simp only [isWrapped, Bool.or_eq_false_iff, decide_eq_false_iff_not] at h
  omega

theorem brief_literal {text : String} (h : isWrapped (literal text).chars = false) :
    Brief (literal text) (literal text).chars := by
  have hlength := not_isWrapped_length h
  rw [chars] at hlength ⊢
  match htext : text.toList with
  | [] =>
    obtain rfl : text = "" := String.toList_eq_nil_iff.1 htext
    exact .blank
  | [c] =>
    rw [htext] at hlength
    by_cases hc : c ∈ literalSpecials
    · rw [escape_cons_of_mem hc] at hlength
      simp at hlength
    · rw [escape_cons_of_notMem hc]
      exact .literal htext hc
  | c :: d :: cs =>
    have hle := length_le_length_escape literalSpecials text.toList
    rw [htext] at hlength hle
    simp only [List.length_cons] at hle
    omega

/-- A block is brief unless a quantifier needs a group around it. -/
theorem brief_of_not_isWrapped {b : Block} (h : isWrapped b.chars = false) : Brief b b.chars := by
  have hlength := not_isWrapped_length h
  induction b with
  | literal text => exact brief_literal h
  | symbol s =>
    cases s with
    | anyChar | startOfLine | endOfLine => exact .symbol rfl
    | _ => cases h
  | repetition q body =>
    have hrepeated := List.length_pos_iff.2 (repeated_ne_nil (charsOfBody body))
    have hquantifier : 0 < q.chars.length := by cases q <;> simp [Quantifier.chars]
    rw [chars, List.length_append] at hlength
    omega
  | group bs => simp [chars_group] at hlength
  | alternatives bs ih =>
    obtain _ | ⟨b, _ | ⟨b', bs⟩⟩ := bs
    · cases h
    · have hchars : (alternatives [b]).chars = b.chars := by simp [chars_alternatives]
      rw [hchars] at h hlength ⊢
      exact .alternatives (ih b List.mem_cons_self h hlength)
    · rw [chars_alternatives (List.cons_ne_nil _ _), List.map_cons, List.map_cons,
        List.intercalate_cons_cons, List.append_assoc] at h hlength
      simp only [List.length_append, List.length_singleton] at hlength
      -- the bar between the two takes up the one character, and asks for a group itself
      have hfirst : b.chars = [] := List.eq_nil_of_length_eq_zero (by omega)
      rw [hfirst, List.nil_append, List.singleton_append] at h
      simp [isWrapped, hasBar] at h
  | characterClass negated characters => simp [chars_characterClass] at hlength
  | lookaround k bs => simp [chars_lookaround] at hlength

theorem brief_of_flatMap_eq_nil {bs : List Block} (h : bs.flatMap chars = []) {b : Block}
    (hb : b ∈ bs) : Brief b [] := by
  have hchars : b.chars = [] := List.flatMap_eq_nil_iff.1 h b hb
  have hwrapped : isWrapped b.chars = false := by rw [hchars]; rfl
  exact hchars ▸ brief_of_not_isWrapped hwrapped

/-- A quantifier without a group is written after one character. It is the one that the body is
written as, or it stands for any character if there is none. -/
theorem exists_brief_repeated {body : Option Block} (h : isWrapped (charsOfBody body) = false) :
    ∃ b c, Brief b [c] ∧ repeated (charsOfBody body) = [c] ∧
      (charsOfBody body = [] ∧ b = symbol .anyChar ∧ c = '.' ∨
        charsOfBody body = [c] ∧ body = some b) := by
  rw [repeated_of_not_isWrapped h]
  cases body with
  | none => exact ⟨symbol .anyChar, '.', .symbol rfl, rfl, .inl ⟨rfl, rfl, rfl⟩⟩
  | some b =>
    have hbrief := brief_of_not_isWrapped h
    have hlength := not_isWrapped_length h
    rw [charsOfBody] at hlength ⊢
    match hchars : b.chars with
    | [] => exact ⟨symbol .anyChar, '.', .symbol rfl, rfl, .inl ⟨rfl, rfl, rfl⟩⟩
    | [c] => exact ⟨b, c, hchars ▸ hbrief, rfl, .inr ⟨rfl, rfl⟩⟩
    | c :: d :: cs =>
      rw [hchars] at hlength
      simp at hlength

theorem of_head?_escape {specials cs rest : List Char} {d : Char}
    (h : (escape specials cs ++ ']' :: rest).head? = some d) :
    d = '\\' ∨ d = ']' ∨ (cs.head? = some d ∧ d ∉ specials) := by
  cases cs with
  | nil => grind [escape]
  | cons c cs =>
    by_cases hc : c ∈ specials
    · rw [escape_cons_of_mem hc] at h
      grind
    · rw [escape_cons_of_notMem hc] at h
      grind

end PatternProse.Block
