import PatternProse.Proofs.Span

/-!
# Reading a text by byte offsets

A text can be taken apart with nothing but byte offsets into it. Then it is a fault to cut out a
span that runs backwards, leaves the text or cuts a character, and it is a fault if a loop over the
text takes a turn without moving on. The readers here stop at the first fault, so one that returns
has met none.

## Main definitions

* `Bytewise.Fault` — what can go wrong.
* `Bytewise.slice` — the text that a span covers.
* `Bytewise.peek`, `Bytewise.advance`, `Bytewise.eat` — steps from one offset to the next.
* `Bytewise.moved` — the offset of the next turn of a loop.
* `Bytewise.loop` — a loop over the text.
* `Bytewise.At` — the characters that a text goes on with at an offset.

The main statements are `Bytewise.exists_slice_iff`, which says what spans can be cut out, and the
laws of `Bytewise.At`, which say that no step from one character to the next is a fault.
-/

namespace PatternProse

namespace Bytewise

/-- What goes wrong where a text is taken apart by byte offsets. -/
inductive Fault
  /-- A span that runs backwards, leaves the text or cuts a character. -/
  | slice (span : Span)
  /-- A turn of a loop that does not move on, or moves past the end of the text. -/
  | stuck (offset : Nat)
  deriving Repr, DecidableEq

@[simp] theorem ok_bind {α β : Type} (a : α) (f : α → Except Fault β) :
    (Except.ok a >>= f) = f a := rfl

@[simp] theorem pure_eq_ok {α : Type} (a : α) : (pure a : Except Fault α) = .ok a := rfl

section Readers

variable (source : String)

/-- The text that a span covers. -/
def slice (span : Span) : Except Fault String :=
  match span.slice? source with
  | some text => .ok text
  | none => .error (.slice span)

/-- The characters from an offset on. -/
def remaining (offset : Nat) : Except Fault (List Char) :=
  (slice source ⟨offset, source.utf8ByteSize⟩).map String.toList

/-- The character at an offset, if the text goes on there. -/
def peek (offset : Nat) : Except Fault (Option Char) := (remaining source offset).map List.head?

/-- The offset behind the character at an offset. At the end of the text there is none to step
over. -/
def advance (offset : Nat) : Except Fault Nat :=
  (peek source offset).map fun
    | some c => offset + c.utf8Size
    | none => offset

/-- The offset behind some characters, if the text goes on with them. -/
def eat (cs : List Char) (offset : Nat) : Except Fault (Option Nat) :=
  (remaining source offset).map fun rest =>
    if cs.isPrefixOf rest then some (offset + utf8Length cs) else none

/-- Where the next turn of a loop starts, if the turn at an offset has moved on and stayed in the
text. -/
def moved (offset next : Nat) :
    Except Fault {next : Nat // offset < next ∧ next ≤ source.utf8ByteSize} :=
  if h : offset < next ∧ next ≤ source.utf8ByteSize then .ok ⟨next, h⟩ else .error (.stuck offset)

/-- What a turn of a loop comes to. -/
inductive Turn (α : Type)
  /-- The next turn starts at an offset. -/
  | again (offset : Nat)
  | done (result : α)

/-- Takes turns, each from where the one before has got to. -/
def loop {α : Type} (turn : Nat → Except Fault (Turn α)) (offset : Nat) : Except Fault α := do
  match ← turn offset with
  | .done result => return result
  | .again next =>
    let ⟨next, _⟩ ← moved source offset next
    loop turn next
termination_by source.utf8ByteSize - offset

end Readers

/-! ### Spans that can be cut out -/

theorem slice_eq_ok_iff {source text : String} {span : Span} :
    slice source span = .ok text ↔ span.slice? source = some text := by
  unfold slice
  split <;> simp_all

theorem exists_append_of_isValid {source : String} {offset : Nat}
    (h : String.Pos.Raw.IsValid source ⟨offset⟩) :
    ∃ before after, source.toList = before ++ after ∧ utf8Length before = offset := by
  obtain ⟨s, t, rfl, hoffset⟩ := String.Pos.Raw.isValid_iff_exists_append.1 h
  refine ⟨s.toList, t.toList, String.toList_append, ?_⟩
  rw [utf8Length_toList]
  simpa [String.Pos.Raw.ext_iff] using hoffset.symm

theorem exists_append_of_dropBytes? {n : Nat} {cs rest : List Char}
    (h : dropBytes? n cs = some rest) : ∃ before, cs = before ++ rest ∧ utf8Length before = n := by
  fun_induction dropBytes? n cs with
  | case1 cs =>
    cases h
    exact ⟨[], rfl, rfl⟩
  | case2 => cases h
  | case3 n c cs hle ih =>
    obtain ⟨before, rfl, hbefore⟩ := ih h
    refine ⟨c :: before, rfl, ?_⟩
    rw [utf8Length_cons]
    omega
  | case4 => cases h

theorem exists_append_of_takeBytes? {n : Nat} {cs text : List Char}
    (h : takeBytes? n cs = some text) : ∃ after, cs = text ++ after ∧ utf8Length text = n := by
  fun_induction takeBytes? n cs generalizing text with
  | case1 cs =>
    cases h
    exact ⟨cs, rfl, rfl⟩
  | case2 => cases h
  | case3 n c cs hle ih =>
    obtain ⟨text, htext, rfl⟩ := Option.map_eq_some_iff.1 h
    obtain ⟨after, rfl, hlength⟩ := ih htext
    refine ⟨after, rfl, ?_⟩
    rw [utf8Length_cons]
    omega
  | case4 => cases h

/-- Prefixes of the same text are prefixes of each other. -/
theorem exists_append_of_utf8Length_le {before after before' after' : List Char}
    (h : before ++ after = before' ++ after') (hle : utf8Length before ≤ utf8Length before') :
    ∃ text, before' = before ++ text := by
  obtain ⟨text, rfl, -⟩ | ⟨text, rfl, -⟩ := List.append_eq_append_iff.1 h
  · exact ⟨text, rfl⟩
  · cases text with
    | nil => exact ⟨[], by simp⟩
    | cons c text =>
      have := c.utf8Size_pos
      simp only [utf8Length_append, utf8Length_cons] at hle
      omega

/-- A span can be cut out just if it runs forwards and its ends lie between characters of the
text. -/
theorem exists_slice_iff {source : String} {span : Span} :
    (∃ text, slice source span = .ok text) ↔ span.start ≤ span.stop ∧
      String.Pos.Raw.IsValid source ⟨span.start⟩ ∧ String.Pos.Raw.IsValid source ⟨span.stop⟩ := by
  obtain ⟨start, stop⟩ := span
  simp only [slice_eq_ok_iff]
  constructor
  · rintro ⟨text, h⟩
    unfold Span.slice? at h
    split at h
    · next hle =>
      obtain ⟨rest, hrest, h⟩ := Option.bind_eq_some_iff.1 h
      obtain ⟨cs, hcs, -⟩ := Option.bind_eq_some_iff.1 h
      obtain ⟨before, hbefore, hstart⟩ := exists_append_of_dropBytes? hrest
      obtain ⟨after, rfl, hlength⟩ := exists_append_of_takeBytes? hcs
      dsimp only at hle hstart hlength
      have hstop : stop = utf8Length (before ++ cs) := by
        rw [utf8Length_append]
        omega
      have hsource : source.toList = (before ++ cs) ++ after := by
        rw [hbefore, List.append_assoc]
      rw [← hstart, hstop]
      refine ⟨?_, isValid_utf8Length hbefore, isValid_utf8Length hsource⟩
      rw [utf8Length_append]
      exact Nat.le_add_right _ _
    · cases h
  · rintro ⟨hle, hstart, hstop⟩
    obtain ⟨before, after, hbefore, rfl⟩ := exists_append_of_isValid hstart
    obtain ⟨before', after', hbefore', rfl⟩ := exists_append_of_isValid hstop
    obtain ⟨text, rfl⟩ := exists_append_of_utf8Length_le (hbefore.symm.trans hbefore') hle
    rw [List.append_assoc] at hbefore'
    rw [utf8Length_append]
    exact ⟨_, Span.slice?_of_toList_eq hbefore'⟩

example : slice "né" ⟨1, 2⟩ = .error (.slice ⟨1, 2⟩) := by cbv

/-! ### Steps from character to character -/

/-- From an offset on the text goes on with some characters, and ends behind them. -/
def At (source : String) (offset : Nat) (cs : List Char) : Prop :=
  ∃ before, source.toList = before ++ cs ∧ utf8Length before = offset

theorem at_zero (source : String) : At source 0 source.toList := ⟨[], rfl, rfl⟩

theorem at_zero_ofList (cs : List Char) : At (String.ofList cs) 0 cs := by
  have hat := at_zero (String.ofList cs)
  rwa [String.toList_ofList] at hat

namespace At

variable {source : String} {offset : Nat} {c : Char} {cs text rest : List Char}

theorem append (h : At source offset (text ++ rest)) :
    At source (offset + utf8Length text) rest := by
  obtain ⟨before, hsource, rfl⟩ := h
  exact ⟨before ++ text, by rw [hsource, List.append_assoc], utf8Length_append before text⟩

theorem cons (h : At source offset (c :: cs)) : At source (offset + c.utf8Size) cs := by
  have happend : At source offset ([c] ++ cs) := h
  simpa using happend.append

theorem utf8ByteSize_eq (h : At source offset cs) :
    offset + utf8Length cs = source.utf8ByteSize := by
  obtain ⟨before, hsource, rfl⟩ := h
  rw [← utf8Length_toList, hsource, utf8Length_append]

/-- What stands between two steps can be cut out. -/
theorem slice_eq (h : At source offset (text ++ rest)) :
    slice source ⟨offset, offset + utf8Length text⟩ = .ok (String.ofList text) := by
  obtain ⟨before, hsource, rfl⟩ := h
  exact slice_eq_ok_iff.2 (Span.slice?_of_toList_eq hsource)

theorem slice_cons (h : At source offset (c :: cs)) :
    slice source ⟨offset, offset + c.utf8Size⟩ = .ok (String.ofList [c]) := by
  have hat : At source offset ([c] ++ cs) := h
  exact hat.slice_eq

/-- What stands behind a step can be cut out. -/
theorem slice_rest (h : At source offset cs) :
    slice source ⟨offset, source.utf8ByteSize⟩ = .ok (String.ofList cs) := by
  have hcs : At source offset (cs ++ []) := by rwa [List.append_nil]
  have hslice := hcs.slice_eq
  rwa [h.utf8ByteSize_eq] at hslice

theorem remaining_eq (h : At source offset cs) : remaining source offset = .ok cs := by
  rw [remaining, h.slice_rest, Except.map, String.toList_ofList]

theorem peek_eq (h : At source offset cs) : peek source offset = .ok cs.head? := by
  rw [peek, h.remaining_eq, Except.map]

theorem advance_eq (h : At source offset (c :: cs)) :
    advance source offset = .ok (offset + c.utf8Size) := by
  rw [advance, h.peek_eq]
  rfl

theorem advance_nil (h : At source offset []) : advance source offset = .ok offset := by
  rw [advance, h.peek_eq]
  rfl

theorem eat_eq (h : At source offset cs) (token : List Char) :
    eat source token offset =
      .ok (if token.isPrefixOf cs then some (offset + utf8Length token) else none) := by
  rw [eat, h.remaining_eq, Except.map]

theorem eat_cons (h : At source offset (c :: cs)) :
    eat source [c] offset = .ok (some (offset + c.utf8Size)) := by
  rw [h.eat_eq]
  simp

theorem eat_none (h : At source offset cs) (hcs : ∀ rest, cs = c :: rest → False) :
    eat source [c] offset = .ok none := by
  rw [h.eat_eq]
  cases cs with
  | nil => rfl
  | cons d cs =>
    have hne : c ≠ d := by
      rintro rfl
      exact hcs cs rfl
    simp [hne]

end At

/-! ### Loops -/

/-- The next turn may start just if the one before has moved on and stayed in the text. -/
theorem exists_moved_iff {source : String} {offset next : Nat} :
    (∃ offset', moved source offset next = .ok offset') ↔
      offset < next ∧ next ≤ source.utf8ByteSize := by
  unfold moved
  split <;> simp_all

theorem moved_eq {source : String} {offset next : Nat}
    (h : offset < next ∧ next ≤ source.utf8ByteSize) :
    moved source offset next = .ok ⟨next, h⟩ := dif_pos h

/-- A step over some characters moves on and stays in the text. -/
theorem At.lt_add {source : String} {offset : Nat} {text rest : List Char}
    (h : At source offset (text ++ rest)) (htext : text ≠ []) :
    offset < offset + utf8Length text ∧ offset + utf8Length text ≤ source.utf8ByteSize := by
  have hpos := utf8Length_pos htext
  have hsize := h.append.utf8ByteSize_eq
  omega

section Loops

variable {source : String} {α : Type} {turn : Nat → Except Fault (Turn α)} {offset : Nat}

theorem loop_done {result : α} (h : turn offset = .ok (.done result)) :
    loop source turn offset = .ok result := by
  rw [loop, h]
  rfl

/-- A turn that steps over some characters leads to the next turn. -/
theorem loop_again {text rest : List Char} (hat : At source offset (text ++ rest))
    (htext : text ≠ []) (h : turn offset = .ok (.again (offset + utf8Length text))) :
    loop source turn offset = loop source turn (offset + utf8Length text) := by
  rw [loop, h, ok_bind]
  dsimp only
  rw [moved_eq (hat.lt_add htext), ok_bind]

/-- A loop that steps over the characters of some kind is done where these end. -/
theorem loop_takeWhile {p : Char → Bool} (result : Nat → List Char → α)
    (hagain : ∀ {offset c cs}, At source offset (c :: cs) → p c = true →
      turn offset = .ok (.again (offset + utf8Length [c])))
    (hdone : ∀ {offset cs}, At source offset cs → (∀ c ∈ cs.head?, p c = false) →
      turn offset = .ok (.done (result offset cs)))
    {cs : List Char} (h : At source offset cs) :
    loop source turn offset =
      .ok (result (offset + utf8Length (cs.takeWhile p)) (cs.dropWhile p)) := by
  induction cs generalizing offset with
  | nil => exact loop_done (hdone h (fun _ hc => by cases hc))
  | cons c cs ih =>
    by_cases hc : p c = true
    · have hat : At source offset ([c] ++ cs) := h
      rw [List.takeWhile_cons_of_pos hc, List.dropWhile_cons_of_pos hc, utf8Length_cons,
        ← Nat.add_assoc]
      exact (loop_again hat (List.cons_ne_nil c []) (hagain h hc)).trans (ih hat.append)
    · rw [List.takeWhile_cons_of_neg hc, List.dropWhile_cons_of_neg hc]
      refine loop_done (hdone h ?_)
      intro d hd
      cases hd
      exact Bool.eq_false_iff.2 hc

end Loops

end Bytewise

end PatternProse
