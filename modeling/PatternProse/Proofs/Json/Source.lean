import PatternProse.Json.Document
import PatternProse.Proofs.Json.Lexeme
import PatternProse.Proofs.Json.Places

/-!
# Texts of JSON values

A grammar tells which texts a JSON value has: its scalars and names stay as they are written, and
there may be white space around each of them. The machine reads any text of a value into one tree,
but for the places in it.

## Main definitions

* `Json.Source` — a value as it is written.
* `Json.Source.IsText` — the texts of a value.
* `Json.Source.tree` — the tree of a value, without places.

The main statement is `Json.Source.exists_ofText`.
-/

namespace PatternProse.Json

/-- A value as it is written, with the texts of its scalars and of the names of its members, which
stand in their order and may have one name several times. -/
inductive Source
  | scalar (text : List Char)
  | array (items : List Source)
  | object (members : List (List Char × Source))

/-- White space. -/
def IsBlank (text : List Char) : Prop := ∀ c ∈ text, isSpace c = true

/-- The texts of scalars. -/
inductive ScalarText : List Char → Prop
  | word {text : List Char} :
    text ∈ [['n', 'u', 'l', 'l'], ['t', 'r', 'u', 'e'], ['f', 'a', 'l', 's', 'e']] →
    ScalarText text
  | string {text : List Char} : StringText text → ScalarText ('"' :: (text ++ ['"']))
  | number {text : List Char} : NumberText text → ScalarText text

/-- The texts of several pieces with commas between them. -/
inductive Listed : List (List Char) → List Char → Prop
  | nil {space : List Char} : IsBlank space → Listed [] space
  | last {before piece behind : List Char} : IsBlank before → IsBlank behind →
    Listed [piece] (before ++ (piece ++ behind))
  | more {before piece behind next text : List Char} {pieces : List (List Char)} :
    IsBlank before → IsBlank behind → Listed (next :: pieces) text →
    Listed (piece :: next :: pieces) (before ++ (piece ++ (behind ++ ',' :: text)))

/-- A member of an object with its text: the name, the white space around the colon, and the value
with its text. -/
structure Written where
  name : List Char
  before : List Char
  behind : List Char
  value : Source
  text : List Char

/-- The characters that a member is written with. -/
def Written.chars (m : Written) : List Char :=
  '"' :: (m.name ++ '"' :: (m.before ++ ':' :: (m.behind ++ m.text)))

/-- The texts of a value. -/
inductive Source.IsText : Source → List Char → Prop
  | scalar {text : List Char} : ScalarText text → IsText (.scalar text) text
  | array {items : List (Source × List Char)} {text : List Char} :
    (∀ i ∈ items, IsText i.1 i.2) → Listed (items.map Prod.snd) text →
    IsText (.array (items.map Prod.fst)) ('[' :: (text ++ [']']))
  | object {members : List Written} {text : List Char} :
    (∀ m ∈ members, StringText m.name ∧ IsBlank m.before ∧ IsBlank m.behind) →
    (∀ m ∈ members, IsText m.value m.text) → Listed (members.map Written.chars) text →
    IsText (.object (members.map fun m => (m.name, m.value))) ('\x7b' :: (text ++ ['\x7d']))

/-- The documents of a value: its texts with white space around them. -/
def Source.IsDocument (s : Source) (text : String) : Prop :=
  ∃ before own behind, IsBlank before ∧ IsBlank behind ∧ s.IsText own ∧
    text.toList = before ++ (own ++ behind)

/-! ### Trees -/

/-- The value of the text of a scalar. -/
def scalarOf (text : List Char) : Except (Problem SyntaxProblem) Scalar :=
  match text with
  | [] => fail .endInValue 0
  | c :: cs =>
    match readScalar 0 c cs with
    | .ok ⟨.scalar taken _, _, _⟩ => unplaced taken
    | _ => fail .endInValue 0

/-- The name that is written with the text. -/
def nameOf (text : List Char) : Name :=
  match readName 0 (text ++ ['"']) with
  | .ok r => unplaced r.value
  | .error _ => fail .endInValue 0

mutual

/-- The tree of a value, without places. -/
def Source.tree : Source → Tree
  | .scalar text => .scalar (scalarOf text) 0
  | .array items => .array 0 (Source.items items)
  | .object members => .object 0 (Source.members members)

/-- The trees of the items of an array. -/
def Source.items : List Source → Items
  | [] => .done 0
  | s :: ss => .more 0 s.tree 0 (Source.items ss)

/-- The trees of the members of an object. -/
def Source.members : List (List Char × Source) → Members
  | [] => .done 0
  | (name, s) :: ms => .more (nameOf name) 0 s.tree (Source.members ms)

end

theorem Source.tree_array (ss : List Source) :
    (Source.array ss).tree = .array 0 (Source.items ss) := rfl

/-! ### Scalars and names -/

theorem unplaced_map {α β : Type} {r r' : Read α} (h : valueOf r = valueOf r') (f : α → β) :
    unplaced (r.map fun r => f r.value) = unplaced (r'.map fun r => f r.value) := by
  cases r with
  | error p =>
    cases r' with
    | error p' => rfl
    | ok r' => cases h
  | ok r =>
    cases r' with
    | error p' => cases h
    | ok r' =>
      have hvalue : r.value = r'.value := Option.some.inj h
      simp only [Except.map, hvalue]

theorem readName_of_skipString {offset stop : Nat} {cs rest : List Char}
    (h : skipString offset cs = .ok ⟨(), stop, rest⟩) :
    readName offset cs =
      .ok ⟨(takeString offset cs).map fun r => String.ofList r.value, stop, rest⟩ := by
  simp only [readName, h]

/-- What spells the characters of a name is the text of that name. -/
theorem Spells.nameOf_eq {text : List Char} {name : String} (h : Spells text name.toList) :
    nameOf text = .ok name := by
  obtain ⟨stop, htake, hskip⟩ := h.exists_string 0 []
  rw [nameOf, readName_of_skipString hskip, htake]
  simp [Except.map, unplaced]

/-- A name is read alike wherever it stands. -/
theorem StringText.exists_readName {text : List Char} (h : StringText text) (offset : Nat)
    (rest : List Char) :
    ∃ name stop, unplaced name = nameOf text ∧
      readName offset (text ++ '"' :: rest) = .ok ⟨name, stop, rest⟩ := by
  obtain ⟨stop, hskip⟩ := h.exists_skipString offset rest
  obtain ⟨stop₀, hskip₀⟩ := h.exists_skipString 0 []
  refine ⟨_, stop, ?_, readName_of_skipString hskip⟩
  rw [nameOf, readName_of_skipString hskip₀]
  exact unplaced_map (h.valueOf_takeString _ _ _ _) _

theorem scalarOf_eq {c : Char} {cs : List Char} {value : Except (Problem SyntaxProblem) Scalar}
    (h : ∀ (offset : Nat) (rest : List Char), endsNumber rest = true → ∃ taken stop,
      unplaced taken = value ∧
        readScalar offset c (cs ++ rest) = .ok ⟨.scalar taken stop, stop, rest⟩) :
    scalarOf (c :: cs) = value := by
  obtain ⟨taken, stop, htaken, hread⟩ := h 0 [] rfl
  rw [List.append_nil] at hread
  rw [scalarOf, hread, ← htaken]

theorem exists_taken_of {c : Char} {cs : List Char} {α : Type} (read : Nat → List Char → Read α)
    (f : α → Scalar)
    (hread : ∀ (offset : Nat) (rest : List Char), endsNumber rest = true → ∃ stop,
      readScalar offset c (cs ++ rest) =
        .ok ⟨.scalar ((read offset rest).map fun r => f r.value) stop, stop, rest⟩)
    (hvalue : ∀ (offset offset' : Nat) (rest rest' : List Char), endsNumber rest = true →
      endsNumber rest' = true → valueOf (read offset rest) = valueOf (read offset' rest')) :
    ∀ (offset : Nat) (rest : List Char), endsNumber rest = true → ∃ taken stop,
      unplaced taken = scalarOf (c :: cs) ∧
        readScalar offset c (cs ++ rest) = .ok ⟨.scalar taken stop, stop, rest⟩ := by
  have htaken : ∀ (offset : Nat) (rest : List Char), endsNumber rest = true → ∃ taken stop,
      unplaced taken = unplaced ((read 0 []).map fun r => f r.value) ∧
        readScalar offset c (cs ++ rest) = .ok ⟨.scalar taken stop, stop, rest⟩ := by
    intro offset rest hrest
    obtain ⟨stop, hstop⟩ := hread offset rest hrest
    exact ⟨_, stop, unplaced_map (hvalue offset 0 rest [] hrest rfl) f, hstop⟩
  rwa [scalarOf_eq htaken]

theorem readScalar_string {offset stop : Nat} {cs rest : List Char}
    (h : skipString (offset + 1) cs = .ok ⟨(), stop, rest⟩) :
    readScalar offset '"' cs =
      .ok ⟨.scalar ((takeString (offset + 1) cs).map fun r => .string (.ofList r.value)) stop,
        stop, rest⟩ := by
  simp only [readScalar, h]
  cases takeString (offset + 1) cs <;> rfl

theorem readScalar_number {offset stop : Nat} {c : Char} {cs rest : List Char}
    (hc : c = '-' ∨ c.isDigit = true) (h : skipNumber offset (c :: cs) = .ok ⟨(), stop, rest⟩) :
    readScalar offset c cs =
      .ok ⟨.scalar ((takeNumber offset (c :: cs)).map fun r => .number r.value) stop, stop,
        rest⟩ := by
  have hnumber : (c == '-' || c.isDigit) = true := by simpa using hc
  unfold readScalar
  split
  · exact absurd hnumber (by decide)
  · exact absurd hnumber (by decide)
  · exact absurd hnumber (by decide)
  · exact absurd hnumber (by decide)
  · simp only [hnumber, if_true, h]

/-- A scalar is read alike wherever it stands. -/
theorem ScalarText.exists_readScalar {text : List Char} (h : ScalarText text) :
    ∃ c cs, text = c :: cs ∧ isSpace c = false ∧ c ≠ '[' ∧ c ≠ ']' ∧ c ≠ '\x7b' ∧
      ∀ (offset : Nat) (rest : List Char), endsNumber rest = true → ∃ taken stop,
        unplaced taken = scalarOf text ∧
          readScalar offset c (cs ++ rest) = .ok ⟨.scalar taken stop, stop, rest⟩ := by
  cases h with
  | word h =>
    simp only [List.mem_cons, List.not_mem_nil, or_false] at h
    rcases h with rfl | rfl | rfl
    · exact ⟨_, _, rfl, rfl, by decide, by decide, by decide, fun _ _ _ => ⟨_, _, rfl, rfl⟩⟩
    · exact ⟨_, _, rfl, rfl, by decide, by decide, by decide, fun _ _ _ => ⟨_, _, rfl, rfl⟩⟩
    · exact ⟨_, _, rfl, rfl, by decide, by decide, by decide, fun _ _ _ => ⟨_, _, rfl, rfl⟩⟩
  | @string text h =>
    refine ⟨_, _, rfl, rfl, by decide, by decide, by decide, exists_taken_of
      (fun offset rest => takeString (offset + 1) (text ++ '"' :: rest))
      (fun cs => .string (.ofList cs)) ?_ ?_⟩
    · intro offset rest _
      obtain ⟨stop, hskip⟩ := h.exists_skipString (offset + 1) rest
      rw [List.append_assoc]
      exact ⟨stop, readScalar_string hskip⟩
    · intro offset offset' rest rest' _ _
      exact h.valueOf_takeString _ _ _ _
  | number h =>
    obtain ⟨c, cs, rfl, hc⟩ : ∃ c cs, text = c :: cs ∧ (c = '-' ∨ c.isDigit = true) := by
      obtain ⟨rfl | rfl, hdigits⟩ := h
      · exact ⟨_, _, rfl, .inr (hdigits _ (.head _))⟩
      · exact ⟨_, _, rfl, .inl rfl⟩
    have hother : ∀ d : Char, d ≠ '-' → d.isDigit = false → c ≠ d := by
      rintro d hd hdigit rfl
      rcases hc with rfl | hc
      · exact hd rfl
      · rw [hdigit] at hc
        cases hc
    have hspace : isSpace c = false := by
      simp [isSpace, hother]
    refine ⟨c, cs, rfl, hspace, hother '[' (by decide) rfl, hother ']' (by decide) rfl,
      hother '\x7b' (by decide) rfl, exists_taken_of
      (fun offset rest => takeNumber offset (c :: cs ++ rest)) .number ?_ ?_⟩
    · intro offset rest hrest
      obtain ⟨stop, hskip⟩ := h.exists_skipNumber hrest offset
      exact ⟨stop, readScalar_number hc hskip⟩
    · intro offset offset' rest rest' hrest hrest'
      exact h.valueOf_takeNumber hrest hrest' offset offset'

/-! ### Steps of the machine -/

theorem skipSpace_of_not_isSpace {c : Char} (h : isSpace c = false) (cs : List Char) :
    skipSpace (c :: cs) = (0, c :: cs) := by
  simp [skipSpace, h]

theorem skipSpace_append {space : List Char} (h : IsBlank space) (cs : List Char) :
    skipSpace (space ++ cs) = (space.length + (skipSpace cs).1, (skipSpace cs).2) := by
  simp only [skipSpace, List.takeWhile_append_of_pos h, List.dropWhile_append_of_pos h,
    List.length_append]

theorem endsNumber_append {space rest : List Char} (h : IsBlank space)
    (hrest : endsNumber rest = true) : endsNumber (space ++ rest) = true := by
  cases space with
  | nil => exact hrest
  | cons c space =>
    have hc : isSpace c = true := h c (.head _)
    simp only [isSpace, Bool.or_eq_true, beq_iff_eq] at hc
    rcases hc with ((rfl | rfl) | rfl) | rfl <;> rfl

namespace Reader

variable (outer : List Open) (offset start : Nat)

/-- White space makes no difference. -/
theorem finish_blank {space : List Char} (h : IsBlank space) (stage : Stage) (cs : List Char) :
    finish ⟨outer, stage, offset, space ++ cs⟩ =
      finish ⟨outer, stage, offset + space.length, cs⟩ := by
  have hstep : step ⟨outer, stage, offset, space ++ cs⟩ =
      step ⟨outer, stage, offset + space.length, cs⟩ := by
    simp only [step, skipSpace_append h, Nat.add_assoc]
  rw [finish, finish, hstep]

/-- A scalar is a value of its own. -/
theorem finish_scalar {c : Char} {cs : List Char} {r : Reading Tree} (hspace : isSpace c = false)
    (hbracket : c ≠ '[') (hbrace : c ≠ '\x7b') (h : readScalar offset c cs = .ok r) :
    finish ⟨outer, .value, offset, c :: cs⟩ =
      finish ⟨outer, .after offset r.value, r.offset, r.rest⟩ := by
  refine finish_of_step_next ?_
  simp only [step, skipSpace_of_not_isSpace hspace, Nat.add_zero]
  rw [stepValue]
  · rw [h]
  · exact hbracket
  · exact hbrace

theorem finish_openArray (cs : List Char) :
    finish ⟨outer, .value, offset, '[' :: cs⟩ =
      finish ⟨outer, .item offset [] true, offset + 1, cs⟩ := finish_of_step_next rfl

theorem finish_openObject (cs : List Char) :
    finish ⟨outer, .value, offset, '\x7b' :: cs⟩ =
      finish ⟨outer, .member offset [] true, offset + 1, cs⟩ := finish_of_step_next rfl

theorem finish_closeEmptyArray (items : ItemsRead) (cs : List Char) :
    finish ⟨outer, .item start items true, offset, ']' :: cs⟩ =
      finish ⟨outer, .after start (.array start (.done (offset + 1))), offset + 1, cs⟩ :=
  finish_of_step_next rfl

theorem finish_closeEmptyObject (members : MembersRead) (cs : List Char) :
    finish ⟨outer, .member start members true, offset, '\x7d' :: cs⟩ =
      finish ⟨outer, .after start (.object start (.done (offset + 1))), offset + 1, cs⟩ :=
  finish_of_step_next rfl

/-- An item starts with any character that does not close the array. -/
theorem finish_item {c : Char} (hspace : isSpace c = false) (hbracket : c ≠ ']')
    (items : ItemsRead) (first : Bool) (cs : List Char) :
    finish ⟨outer, .item start items first, offset, c :: cs⟩ =
      finish ⟨.array start items :: outer, .value, offset, c :: cs⟩ := by
  refine finish_of_step_next ?_
  simp only [step, skipSpace_of_not_isSpace hspace, Nat.add_zero]
  rw [stepItem]
  · simp
  · simp [hbracket]

theorem exists_finish_member {name before : List Char} (hname : StringText name)
    (hbefore : IsBlank before) (members : MembersRead) (first : Bool) (cs : List Char) :
    ∃ read closing stop, unplaced read = nameOf name ∧
      finish ⟨outer, .member start members first, offset,
          '"' :: (name ++ '"' :: (before ++ ':' :: cs))⟩ =
        finish ⟨.object start members read closing :: outer, .value, stop, cs⟩ := by
  obtain ⟨read, stop, hread, hfinish⟩ :=
    hname.exists_readName (offset + 1) (before ++ ':' :: cs)
  refine ⟨read, objectClosing (stop + before.length) (':' :: cs), stop + before.length + 1, hread,
    finish_of_step_next ?_⟩
  have hcolon : skipSpace (before ++ ':' :: cs) = (before.length, ':' :: cs) := by
    rw [skipSpace_append hbefore, skipSpace_of_not_isSpace rfl, Nat.add_zero]
  simp only [step, skipSpace_of_not_isSpace (c := '"') rfl, Nat.add_zero, stepMember, hfinish,
    hcolon, stepColon]

theorem finish_nextItem (items : ItemsRead) (bracket : Nat) (t : Tree) (cs : List Char) :
    finish ⟨.array bracket items :: outer, .after start t, offset, ',' :: cs⟩ =
      finish ⟨outer, .item bracket ((start, t, arrayClosing offset (',' :: cs)) :: items) false,
        offset + 1, cs⟩ := finish_of_step_next rfl

theorem finish_closeArray (items : ItemsRead) (bracket : Nat) (t : Tree) (cs : List Char) :
    finish ⟨.array bracket items :: outer, .after start t, offset, ']' :: cs⟩ =
      finish ⟨outer, .after bracket (.array bracket (.build items
        (.more start t (offset + 1) (.done (offset + 1))))), offset + 1, cs⟩ :=
  finish_of_step_next rfl

theorem finish_nextMember (members : MembersRead) (brace : Nat) (name : Name) (closing : Nat)
    (t : Tree) (cs : List Char) :
    finish ⟨.object brace members name closing :: outer, .after start t, offset, ',' :: cs⟩ =
      finish ⟨outer, .member brace ((name, closing, t) :: members) false, offset + 1, cs⟩ :=
  finish_of_step_next rfl

theorem finish_closeObject (members : MembersRead) (brace : Nat) (name : Name) (closing : Nat)
    (t : Tree) (cs : List Char) :
    finish ⟨.object brace members name closing :: outer, .after start t, offset, '\x7d' :: cs⟩ =
      finish ⟨outer, .after brace (.object brace (.build members
        (.more name closing t (.done (offset + 1))))), offset + 1, cs⟩ := finish_of_step_next rfl

end Reader

/-! ### Values -/

/-- The machine reads a text of a value, and goes on behind it with the tree of the value. -/
structure Source.Reads (s : Source) (text : List Char) : Prop where
  head : ∃ c cs, text = c :: cs ∧ isSpace c = false ∧ c ≠ ']'
  finish (outer : List Open) (offset : Nat) (rest : List Char) (hrest : endsNumber rest = true) :
    ∃ t stop, t.unplaced = s.tree ∧
      Reader.finish ⟨outer, .value, offset, text ++ rest⟩ =
        Reader.finish ⟨outer, .after offset t, stop, rest⟩

/-- One item of an array, with the white space around it. -/
theorem exists_finish_item {s : Source} {piece before behind : List Char} (h : s.Reads piece)
    (hbefore : IsBlank before) (hbehind : IsBlank behind) (outer : List Open)
    (bracket offset : Nat) (read : ItemsRead) (first : Bool) (rest : List Char)
    (hrest : endsNumber rest = true) :
    ∃ t start stop, t.unplaced = s.tree ∧
      Reader.finish ⟨outer, .item bracket read first, offset,
          before ++ (piece ++ (behind ++ rest))⟩ =
        Reader.finish ⟨.array bracket read :: outer, .after start t, stop, rest⟩ := by
  obtain ⟨c, cs, htext, hspace, hbracket⟩ := h.head
  obtain ⟨t, stop, ht, hfinish⟩ := h.finish (.array bracket read :: outer)
    (offset + before.length) (behind ++ rest) (endsNumber_append hbehind hrest)
  refine ⟨t, offset + before.length, stop + behind.length, ht, ?_⟩
  rw [Reader.finish_blank _ _ hbefore]
  rw [htext, List.cons_append] at hfinish ⊢
  rw [Reader.finish_item _ _ _ hspace hbracket, hfinish, Reader.finish_blank _ _ hbehind]

/-- The items of an array up to its end, where `read` are the items before them. -/
theorem exists_finish_items {i : Source × List Char} {items : List (Source × List Char)}
    {text : List Char} (h : ∀ j ∈ i :: items, j.1.Reads j.2)
    (htext : Listed ((i :: items).map Prod.snd) text) (outer : List Open) (bracket offset : Nat)
    (read : ItemsRead) (first : Bool) (rest : List Char) :
    ∃ trees stop, trees.unplaced = Source.items ((i :: items).map Prod.fst) ∧
      Reader.finish ⟨outer, .item bracket read first, offset, text ++ ']' :: rest⟩ =
        Reader.finish ⟨outer, .after bracket (.array bracket (.build read trees)), stop, rest⟩ := by
  induction items generalizing i text offset read first with
  | nil =>
    cases htext with
    | last hbefore hbehind =>
      obtain ⟨t, start, stop, ht, hfinish⟩ := exists_finish_item (h i (.head _)) hbefore hbehind
        outer bracket offset read first (']' :: rest) rfl
      refine ⟨.more start t (stop + 1) (.done (stop + 1)), stop + 1, ?_, ?_⟩
      · simp only [Items.unplaced, ht, List.map_cons, List.map_nil, Source.items]
      · rw [List.append_assoc, List.append_assoc, hfinish]
        exact Reader.finish_closeArray outer stop start read bracket t rest
  | cons j items ih =>
    cases htext with
    | @more before _ behind _ text _ hbefore hbehind htext =>
      obtain ⟨t, start, stop, ht, hfinish⟩ := exists_finish_item (h i (.head _)) hbefore hbehind
        outer bracket offset read first (',' :: (text ++ ']' :: rest)) rfl
      have hnext := Reader.finish_nextItem outer stop start read bracket t (text ++ ']' :: rest)
      generalize arrayClosing stop (',' :: (text ++ ']' :: rest)) = closing at hnext
      obtain ⟨trees, stop', htrees, hfinish'⟩ := ih (fun k hk => h k (.tail _ hk)) htext (stop + 1)
        ((start, t, closing) :: read) false
      refine ⟨.more start t closing trees, stop', ?_, ?_⟩
      · simp only [Items.unplaced, ht, htrees, List.map_cons, Source.items]
      · simp only [List.append_assoc, List.cons_append]
        rw [hfinish, hnext, hfinish']
        rfl

/-- One member of an object, with the white space around it. -/
theorem exists_finish_written {m : Written} {before behind : List Char} (hname : StringText m.name)
    (hm : IsBlank m.before ∧ IsBlank m.behind) (h : m.value.Reads m.text)
    (hbefore : IsBlank before) (hbehind : IsBlank behind) (outer : List Open)
    (brace offset : Nat) (read : MembersRead) (first : Bool) (rest : List Char)
    (hrest : endsNumber rest = true) :
    ∃ name closing t start stop, unplaced name = nameOf m.name ∧ t.unplaced = m.value.tree ∧
      Reader.finish ⟨outer, .member brace read first, offset,
          before ++ (m.chars ++ (behind ++ rest))⟩ =
        Reader.finish ⟨.object brace read name closing :: outer, .after start t, stop, rest⟩ := by
  obtain ⟨name, closing, next, hread, hmember⟩ := Reader.exists_finish_member outer
    (offset + before.length) brace hname hm.1 read first (m.behind ++ (m.text ++ (behind ++ rest)))
  obtain ⟨t, stop, ht, hfinish⟩ := h.finish (.object brace read name closing :: outer)
    (next + m.behind.length) (behind ++ rest) (endsNumber_append hbehind hrest)
  refine ⟨name, closing, t, next + m.behind.length, stop + behind.length, hread, ht, ?_⟩
  rw [Reader.finish_blank _ _ hbefore]
  simp only [Written.chars, List.cons_append, List.append_assoc] at hmember ⊢
  rw [hmember, Reader.finish_blank _ _ hm.2, hfinish, Reader.finish_blank _ _ hbehind]

/-- The members of an object up to its end, where `read` are the members before them. -/
theorem exists_finish_members {m : Written} {ms : List Written} {text : List Char}
    (hname : ∀ m' ∈ m :: ms, StringText m'.name ∧ IsBlank m'.before ∧ IsBlank m'.behind)
    (h : ∀ m' ∈ m :: ms, m'.value.Reads m'.text)
    (htext : Listed ((m :: ms).map Written.chars) text) (outer : List Open) (brace offset : Nat)
    (read : MembersRead) (first : Bool) (rest : List Char) :
    ∃ trees stop,
      trees.unplaced = Source.members ((m :: ms).map fun m => (m.name, m.value)) ∧
      Reader.finish ⟨outer, .member brace read first, offset, text ++ '\x7d' :: rest⟩ =
        Reader.finish ⟨outer, .after brace (.object brace (.build read trees)), stop, rest⟩ := by
  induction ms generalizing m text offset read first with
  | nil =>
    cases htext with
    | last hbefore hbehind =>
      obtain ⟨hstring, hblank⟩ := hname m (.head _)
      obtain ⟨name, closing, t, start, stop, hread, ht, hfinish⟩ := exists_finish_written hstring
        hblank (h m (.head _)) hbefore hbehind outer brace offset read first ('\x7d' :: rest) rfl
      refine ⟨.more name closing t (.done (stop + 1)), stop + 1, ?_, ?_⟩
      · simp only [Members.unplaced, hread, ht, List.map_cons, List.map_nil, Source.members]
      · rw [List.append_assoc, List.append_assoc, hfinish]
        exact Reader.finish_closeObject outer stop start read brace name closing t rest
  | cons m' ms ih =>
    cases htext with
    | @more before _ behind _ text _ hbefore hbehind htext =>
      obtain ⟨hstring, hblank⟩ := hname m (.head _)
      obtain ⟨name, closing, t, start, stop, hread, ht, hfinish⟩ := exists_finish_written hstring
        hblank (h m (.head _)) hbefore hbehind outer brace offset read first
        (',' :: (text ++ '\x7d' :: rest)) rfl
      obtain ⟨trees, stop', htrees, hfinish'⟩ := ih (fun k hk => hname k (.tail _ hk))
        (fun k hk => h k (.tail _ hk)) htext (stop + 1) ((name, closing, t) :: read) false
      refine ⟨.more name closing t trees, stop', ?_, ?_⟩
      · simp only [Members.unplaced, hread, ht, htrees, List.map_cons, Source.members]
      · simp only [List.append_assoc, List.cons_append]
        rw [hfinish, Reader.finish_nextMember, hfinish']
        rfl

/-- Any text of a value is read into the tree of the value. -/
theorem Source.IsText.reads {s : Source} {text : List Char} (h : s.IsText text) :
    s.Reads text := by
  induction h with
  | scalar h =>
    obtain ⟨c, cs, rfl, hspace, hopen, hclose, hbrace, hread⟩ := h.exists_readScalar
    refine ⟨⟨c, cs, rfl, hspace, hclose⟩, fun outer offset rest hrest => ?_⟩
    obtain ⟨taken, stop, htaken, hscalar⟩ := hread offset rest hrest
    refine ⟨.scalar taken stop, stop, ?_, ?_⟩
    · simp only [Tree.unplaced, htaken, Source.tree]
    · exact Reader.finish_scalar outer offset hspace hopen hbrace hscalar
  | @array items text _ htext ih =>
    refine ⟨⟨'[', _, rfl, rfl, by decide⟩, fun outer offset rest _ => ?_⟩
    rw [List.cons_append, List.append_assoc, Reader.finish_openArray]
    cases items with
    | nil =>
      cases htext with
      | nil hspace =>
        refine ⟨.array offset (.done (offset + 1 + text.length + 1)), offset + 1 + text.length + 1,
          rfl, ?_⟩
        rw [Reader.finish_blank _ _ hspace]
        exact Reader.finish_closeEmptyArray outer _ offset [] rest
    | cons i items =>
      obtain ⟨trees, stop, htrees, hfinish⟩ :=
        exists_finish_items ih htext outer offset (offset + 1) [] true rest
      refine ⟨.array offset trees, stop, ?_, hfinish⟩
      simp only [Tree.unplaced, htrees, Source.tree]
  | @object members text hname _ htext ih =>
    refine ⟨⟨'\x7b', _, rfl, rfl, by decide⟩, fun outer offset rest _ => ?_⟩
    rw [List.cons_append, List.append_assoc, Reader.finish_openObject]
    cases members with
    | nil =>
      cases htext with
      | nil hspace =>
        refine ⟨.object offset (.done (offset + 1 + text.length + 1)), offset + 1 + text.length + 1,
          rfl, ?_⟩
        rw [Reader.finish_blank _ _ hspace]
        exact Reader.finish_closeEmptyObject outer _ offset [] rest
    | cons m members =>
      obtain ⟨trees, stop, htrees, hfinish⟩ :=
        exists_finish_members hname ih htext outer offset (offset + 1) [] true rest
      refine ⟨.object offset trees, stop, ?_, hfinish⟩
      simp only [Tree.unplaced, htrees, Source.tree]

/-- A document of a value is read into the tree of the value, and nothing is wrong after it. -/
theorem Source.exists_ofText {s : Source} {text : String} (h : s.IsDocument text) :
    ∃ t : Tree, t.unplaced = s.tree ∧ Document.ofText text = { tree := t } := by
  obtain ⟨before, own, behind, hbefore, hbehind, hown, htext⟩ := h
  obtain ⟨t, stop, ht, hfinish⟩ := hown.reads.finish [] (0 + before.length) behind
    (by simpa using endsNumber_append hbehind (rfl : endsNumber [] = true))
  refine ⟨t, ht, ?_⟩
  rw [Document.ofText, htext, Reader.finish_blank _ _ hbefore, hfinish,
    ← List.append_nil behind, Reader.finish_blank _ _ hbehind]
  exact Reader.finish_of_step_done rfl

end PatternProse.Json
