import Mathlib.Data.List.TakeWhile
import PatternProse.Proofs.Block.Outline
import PatternProse.Proofs.Span

/-!
# Scans of literal blocks

The pattern of a literal block is scanned as runs of characters and as escaped characters that all
stand for themselves, and these spell the text that the block holds. No character of the text is
taken for a piece of syntax, and no backslash of the pattern for the start of a shorthand.

## Main definitions

* `Token.Spell` — tokens that stand for the characters of a text one after the other.
* `Fragment.IsVerbatim` — a fragment that is explained as standing for itself.
* `Block.LiteralScan` — the fragments that a literal block is scanned as.

The main statement is `Block.literalScan_explainPattern`.
-/

namespace PatternProse

/-- Tokens that spell some characters: runs of them, and special characters with a backslash. -/
inductive Token.Spell : List Token → List Char → Prop
  | nil : Spell [] []
  | run (run : List Char) {ts : List Token} {cs : List Char} :
    Spell ts cs → Spell (literal run :: ts) (run ++ cs)
  | escaped {c : Char} {ts : List Token} {cs : List Char} : c ∈ Block.literalSpecials →
    Spell ts cs → Spell (escape (some c) :: ts) (c :: cs)

/-- A fragment that is explained as standing for itself: a run of characters, or a backslash and a
special character. -/
inductive Fragment.IsVerbatim (f : Fragment) : Prop
  | run : f.kind = .literal →
    f.explanation = "Match the characters \"" ++ f.sourceText ++ "\" literally" → IsVerbatim f
  | escaped {c : Char} : f.kind = .escape → c ∈ Block.literalSpecials →
    f.sourceText = String.ofList ['\\', c] →
    f.explanation = "Match the character \"" ++ String.singleton c ++ "\" literally" → IsVerbatim f

/-- The text of a fragment without the backslash that an escape starts with. -/
def Fragment.unescaped (f : Fragment) : String :=
  if f.kind = .escape then String.ofList (f.sourceText.toList.drop 1) else f.sourceText

/-- The fragments follow one another from one byte offset to another one without a gap. -/
inductive Gapless (stop : Nat) : (start : Nat) → List Fragment → Prop
  | nil : Gapless stop stop []
  | cons {f : Fragment} {fs : List Fragment} :
    Gapless stop f.span.stop fs → Gapless stop f.span.start (f :: fs)

namespace Block

/-- The fragments that a text is scanned as once its special characters have been escaped. -/
structure LiteralScan (text : String) (start stop : Nat) (fs : List Fragment) : Prop where
  depth_eq : ∀ f ∈ fs, f.depth = 0
  isVerbatim : ∀ f ∈ fs, f.IsVerbatim
  gapless : Gapless stop start fs
  join_unescaped : String.join (fs.map Fragment.unescaped) = text

/-! ### Tokens -/

/-- The ordinary characters that a text starts with are left as they are, and what follows them is
escaped by itself. -/
theorem span_escape (cs : List Char) :
    (escape literalSpecials cs).takeWhile (!Token.isMetacharacter ·) =
        cs.takeWhile (!Token.isMetacharacter ·) ∧
      (escape literalSpecials cs).dropWhile (!Token.isMetacharacter ·) =
        escape literalSpecials (cs.dropWhile (!Token.isMetacharacter ·)) := by
  induction cs with
  | nil => exact ⟨rfl, rfl⟩
  | cons c cs ih =>
    by_cases hc : c ∈ literalSpecials
    · have hmeta : Token.isMetacharacter c = true := (isMetacharacter_iff c).2 hc
      have hbackslash : Token.isMetacharacter '\\' = true := by decide
      simp [escape_cons_of_mem hc, hmeta, hbackslash]
    · have hmeta : Token.isMetacharacter c = false := by
        rwa [← isMetacharacter_iff, Bool.not_eq_true] at hc
      simp [escape_cons_of_notMem hc, hmeta, ih]

/-- The tokens of an escaped text spell the text. -/
theorem spell_list_escape (cs : List Char) :
    Token.Spell (Token.list (escape literalSpecials cs)) cs := by
  -- a run takes in several characters at once, so the induction is on how many there are
  induction hlength : cs.length using Nat.strongRecOn generalizing cs with
  | _ n ih =>
    cases cs with
    | nil =>
      have hnil : Token.list [] = [] := by rw [Token.list]
      change Token.Spell (Token.list []) []
      rw [hnil]
      exact .nil
    | cons c cs =>
      rw [List.length_cons] at hlength
      by_cases hc : c ∈ literalSpecials
      · have hscan : Token.scan '\\' (c :: escape literalSpecials cs) =
            (.escape (some c), escape literalSpecials cs) := rfl
        rw [escape_cons_of_mem hc, Token.list_cons_of_scan hscan]
        exact .escaped hc (ih cs.length (by omega) cs rfl)
      · have hmeta : Token.isMetacharacter c = false := by
          rwa [← isMetacharacter_iff, Bool.not_eq_true] at hc
        have hscan := Token.scan_ordinary hmeta (escape literalSpecials cs)
        obtain ⟨htake, hdrop⟩ := span_escape cs
        rw [htake, hdrop] at hscan
        rw [escape_cons_of_notMem hc, Token.list_cons_of_scan hscan]
        have hrest : (cs.dropWhile (!Token.isMetacharacter ·)).length ≤ cs.length :=
          (List.dropWhile_sublist _).length_le
        have hsplit : c :: cs = (c :: cs.takeWhile (!Token.isMetacharacter ·)) ++
            cs.dropWhile (!Token.isMetacharacter ·) := by
          rw [List.cons_append, List.takeWhile_append_dropWhile]
        rw [hsplit]
        exact .run _ (ih _ (by omega) _ rfl)

/-! ### Fragments -/

/-- No special character has a meaning of its own after a backslash. -/
theorem escapeSentence_of_mem {c : Char} (hc : c ∈ literalSpecials) :
    Token.escapeSentence (some c) =
      "Match the character \"" ++ String.singleton c ++ "\" literally" := by
  unfold Token.escapeSentence
  split
  iterate 11
    next h =>
      cases h
      exact absurd hc (by decide)
  rfl

theorem LiteralScan.cons (own : List Char) {text : List Char} {stop : Nat} {f : Fragment}
    {fs : List Fragment} (h : LiteralScan (String.ofList text) f.span.stop stop fs)
    (hdepth : f.depth = 0) (hverbatim : f.IsVerbatim) (hown : f.unescaped = String.ofList own) :
    LiteralScan (String.ofList (own ++ text)) f.span.start stop (f :: fs) where
  depth_eq := List.forall_mem_cons.2 ⟨hdepth, h.depth_eq⟩
  isVerbatim := List.forall_mem_cons.2 ⟨hverbatim, h.isVerbatim⟩
  gapless := .cons h.gapless
  join_unescaped := by
    rw [List.map_cons, hown, String.ofList_append, ← h.join_unescaped]
    simp [String.join_cons]

/-- Tokens that spell a text become fragments that do, on the outermost level. -/
theorem literalScan_fragmentsFrom {ts : List Token} {cs : List Char} (h : Token.Spell ts cs)
    (item : Option (List Char)) (offset : Nat) :
    LiteralScan (String.ofList cs) offset (offset + utf8Length (ts.flatMap Token.text))
      (fragmentsFrom ⟨item, []⟩ offset ts) := by
  induction h generalizing item offset with
  | nil => exact ⟨by simp [fragmentsFrom], by simp [fragmentsFrom], .nil, rfl⟩
  | @run run ts cs _ ih =>
    have hrest := ih (some run) (offset + utf8Length run)
    rw [List.flatMap_cons, utf8Length_append, ← Nat.add_assoc]
    exact LiteralScan.cons run (f := ⟨_, _, 0, ⟨offset, _⟩, .literal⟩) hrest rfl (.run rfl rfl) rfl
  | @escaped c ts cs hc _ ih =>
    have hrest := ih (some ['\\', c]) (offset + utf8Length ['\\', c])
    rw [List.flatMap_cons, utf8Length_append, ← Nat.add_assoc]
    refine LiteralScan.cons [c] (f := ⟨_, _, 0, ⟨offset, _⟩, .escape⟩) hrest rfl ?_ ?_
    · exact .escaped rfl hc rfl (escapeSentence_of_mem hc)
    · simp [Fragment.unescaped, Token.text]

/-- The scan of a literal block gives back the text that the block holds. -/
theorem literalScan_explainPattern (text : String) :
    LiteralScan text 0 (literal text).pattern.utf8ByteSize
      (explainPattern (literal text).pattern) := by
  have hchars : (literal text).pattern.toList = escape literalSpecials text.toList := by
    rw [pattern, String.toList_ofList, chars]
  have hscan := literalScan_fragmentsFrom (spell_list_escape text.toList) none 0
  rw [Token.flatMap_text_list, String.ofList_toList, Nat.zero_add, ← hchars,
    utf8Length_toList] at hscan
  exact hscan

example : (explainPattern (literal "\\d\x7d").pattern).map (·.sourceText) =
    ["\\\\", "d", "\\\x7d"] := by decide +kernel

end Block

end PatternProse
