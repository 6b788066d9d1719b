import PatternProse.Cli.StyledText
import PatternProse.Decimal

/-!
# Erasing colors

A colored text without its escape sequences is the same text in plain, provided that no piece of it
has an escape character of its own. Texts that have none are called inert.

## Main definitions

* `erase` — a text without its escape sequences.
* `IsInert` — texts without escape characters.
* `StyledText.IsInert` — styled texts all of whose pieces are inert.

The main statement is `StyledText.erase_render`.
-/

namespace PatternProse.Cli

/-! ### Erasing -/

/-- What follows the escape sequence that a text starts with, which goes on to the next `m`. -/
def afterSequence? : List Char → Option (List Char)
  | '\x1b' :: '[' :: cs =>
    match cs.dropWhile (· != 'm') with
    | [] => none
    | _ :: rest => some rest
  | _ => none

theorem length_afterSequence?_lt {cs rest : List Char} (h : afterSequence? cs = some rest) :
    rest.length < cs.length := by
  unfold afterSequence? at h
  split at h
  · next cs =>
    have hle := (List.dropWhile_sublist (l := cs) (· != 'm')).length_le
    split at h
    · cases h
    · next heq =>
      cases h
      rw [heq] at hle
      simp only [List.length_cons] at hle ⊢
      omega
  · cases h

/-- Some characters without the escape sequences among them. -/
def eraseChars (cs : List Char) : List Char :=
  match cs with
  | [] => []
  | c :: cs =>
    match _h : afterSequence? (c :: cs) with
    | some rest => eraseChars rest
    | none => c :: eraseChars cs
termination_by cs.length
decreasing_by
  · exact length_afterSequence?_lt _h
  · simp

/-- A text without its escape sequences. -/
def erase (s : String) : String := String.ofList (eraseChars s.toList)

theorem eraseChars_nil : eraseChars [] = [] := by rw [eraseChars]

theorem eraseChars_cons_of_ne {c : Char} (h : c ≠ escapeCharacter) (cs : List Char) :
    eraseChars (c :: cs) = c :: eraseChars cs := by
  have hafter : afterSequence? (c :: cs) = none := by
    unfold afterSequence?
    split
    · next heq => exact absurd (List.cons.inj heq).1 h
    · rfl
  rw [eraseChars]
  split
  · next heq =>
    rw [hafter] at heq
    cases heq
  · rfl

theorem eraseChars_append {cs : List Char} (h : escapeCharacter ∉ cs) (rest : List Char) :
    eraseChars (cs ++ rest) = cs ++ eraseChars rest := by
  induction cs with
  | nil => rfl
  | cons c cs ih =>
    rw [List.mem_cons, not_or] at h
    rw [List.cons_append, eraseChars_cons_of_ne (Ne.symm h.1), ih h.2, List.cons_append]

/-- An escape sequence is erased up to the `m` that ends it. -/
theorem eraseChars_sequence {codes : List Char} (h : 'm' ∉ codes) (rest : List Char) :
    eraseChars (escapeCharacter :: '[' :: (codes ++ 'm' :: rest)) = eraseChars rest := by
  have hafter : afterSequence? (escapeCharacter :: '[' :: (codes ++ 'm' :: rest)) = some rest := by
    have hcodes : ∀ c ∈ codes, (c != 'm') = true := by
      intro c hc
      simpa using fun heq : c = 'm' => h (heq ▸ hc)
    simp only [afterSequence?, escapeCharacter, List.dropWhile_append_of_pos hcodes]
    rfl
  rw [eraseChars]
  split
  · next heq =>
    rw [hafter] at heq
    cases heq
    rfl
  · next heq =>
    rw [hafter] at heq
    cases heq

/-! ### Inert texts -/

/-- Whether a text has no escape character. -/
def IsInert (s : String) : Prop := escapeCharacter ∉ s.toList

theorem isInert_ofList {cs : List Char} (h : escapeCharacter ∉ cs) :
    IsInert (String.ofList cs) := by
  rwa [IsInert, String.toList_ofList]

/-- A text that is written out is inert by evaluation. -/
theorem isInert_literal {cs : List Char} (h : cs.contains escapeCharacter = false) :
    IsInert (String.ofList cs) := isInert_ofList (by simpa using h)

theorem IsInert.append {s t : String} (hs : IsInert s) (ht : IsInert t) : IsInert (s ++ t) := by
  rw [IsInert, String.toList_append]
  exact List.not_mem_append hs ht

/-- Characters of an inert text make up an inert text. -/
theorem IsInert.ofList {s : String} (h : IsInert s) {cs : List Char} (hcs : cs ⊆ s.toList) :
    IsInert (String.ofList cs) :=
  isInert_ofList fun hc => h (hcs hc)

theorem isInert_singleton {c : Char} (h : c ≠ escapeCharacter) : IsInert (String.singleton c) := by
  rw [IsInert, String.toList_singleton, List.mem_singleton]
  exact Ne.symm h

theorem escapeCharacter_notMem_digits (n : Nat) : escapeCharacter ∉ Decimal.digits n := by
  intro h
  exact absurd (Decimal.isDigit_of_mem_digits h) (by decide)

theorem isInert_decimal (n : Nat) : IsInert (Decimal.text n) :=
  isInert_ofList (escapeCharacter_notMem_digits n)

theorem escapeCharacter_notMem_replicate {c : Char} (h : c ≠ escapeCharacter) (n : Nat) :
    escapeCharacter ∉ List.replicate n c := by
  rw [List.mem_replicate, not_and]
  exact fun _ => Ne.symm h

/-! ### Styled texts -/

namespace Style

theorem m_notMem_codes (s : Style) : 'm' ∉ s.codes := by
  cases s with
  | bold | dimmed => decide
  | color c => cases c <;> decide
  | boldColor c => cases c <;> decide

theorem eraseChars_start (s : Style) (rest : List Char) :
    eraseChars (s.start ++ rest) = eraseChars rest := by
  have hstart : s.start ++ rest = escapeCharacter :: '[' :: (s.codes ++ 'm' :: rest) := by
    simp [start]
  rw [hstart, eraseChars_sequence s.m_notMem_codes]

theorem eraseChars_stop (rest : List Char) : eraseChars (stop ++ rest) = eraseChars rest := by
  have hcodes : 'm' ∉ ['0'] := by decide
  exact eraseChars_sequence hcodes rest

/-- Nothing has to be turned on again in a text that turns nothing off. -/
theorem kept_eq (s : Style) {cs : List Char} (h : escapeCharacter ∉ cs) : s.kept cs = cs := by
  induction cs with
  | nil => rw [kept]
  | cons c cs ih =>
    rw [List.mem_cons, not_or] at h
    have hstop : stop.isPrefixOf (c :: cs) = false := by
      simp [stop, List.isPrefixOf, h.1]
    rw [kept, hstop, if_neg (by decide), ih h.2]

end Style

namespace StyledText

/-- Whether no piece of a text has an escape character. -/
def IsInert (t : StyledText) : Prop := ∀ p ∈ t, escapeCharacter ∉ p.text

theorem eraseChars_piece {p : Piece} (h : escapeCharacter ∉ p.text) (colors : Bool)
    (rest : List Char) : eraseChars (p.render colors ++ rest) = p.text ++ eraseChars rest := by
  rw [Piece.render]
  split
  · exact eraseChars_append h rest
  · next s _ =>
    split
    · rw [s.kept_eq h, List.append_assoc, List.append_assoc, s.eraseChars_start,
        eraseChars_append h, Style.eraseChars_stop]
    · exact eraseChars_append h rest

theorem render_plain (p : Piece) : p.render false = p.text := by
  rw [Piece.render]
  split <;> rfl

/-- Without the escape sequences, a text is written as it is where no colors are shown. -/
theorem erase_render {t : StyledText} (h : t.IsInert) (colors : Bool) :
    erase (t.render colors) = t.render false := by
  rw [erase, render, render, String.toList_ofList]
  congr 1
  induction t with
  | nil => exact eraseChars_nil
  | cons p t ih =>
    obtain ⟨hp, ht⟩ := List.forall_mem_cons.1 h
    rw [List.flatMap_cons, List.flatMap_cons, eraseChars_piece hp, ih ht, render_plain]

example : erase ((colored .red "a" ++ plain "b" ++ styled .bold "").render true) = "ab" := by
  decide +kernel

/-! ### Pieces of styled text -/

variable {t u : StyledText}

theorem isInert_nil : IsInert [] := by simp [IsInert]

theorem IsInert.append (ht : t.IsInert) (hu : u.IsInert) : IsInert (t ++ u) :=
  List.forall_mem_append.2 ⟨ht, hu⟩

theorem isInert_plain {s : String} (h : Cli.IsInert s) : (plain s).IsInert :=
  List.forall_mem_singleton.2 h

theorem isInert_styled (style : Style) {s : String} (h : Cli.IsInert s) :
    (styled style s).IsInert := List.forall_mem_singleton.2 h

theorem isInert_colored (color : Color) {s : String} (h : Cli.IsInert s) :
    (colored color s).IsInert := isInert_styled _ h

theorem isInert_newline : newline.IsInert := isInert_plain (isInert_literal rfl)

theorem isInert_flatMap {α : Type} {f : α → StyledText} {as : List α}
    (h : ∀ a ∈ as, (f a).IsInert) : IsInert (as.flatMap f) := by
  intro p hp
  obtain ⟨a, ha, hp⟩ := List.mem_flatMap.1 hp
  exact h a ha p hp

end StyledText

end PatternProse.Cli
