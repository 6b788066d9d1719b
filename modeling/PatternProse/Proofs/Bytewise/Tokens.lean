import PatternProse.Proofs.Bytewise.Cursor
import PatternProse.Token

/-!
# Reading tokens by byte offsets

Each kind of token has a reader that goes through the text by byte offsets and cuts out what the
token is made of. What is not finished at the end of the text makes no reader go wrong.

## Main definitions

* `Bytewise.readOpener`, `Bytewise.readCharacterSet`, `Bytewise.readEscape`,
  `Bytewise.readQuantifier`, `Bytewise.readRun` — the readers.
* `Bytewise.readToken` — the reader for the token that starts with some character.

The main statement is `Bytewise.readToken_eq`: wherever the text goes on with a character, the token
that the scan finds there is read, and the reader stops behind it.
-/

namespace PatternProse

namespace Bytewise

variable {source : String} {offset : Nat} {cs : List Char}

/-! ### Openers -/

/-- The byte offset of the first place in a text where a character stands. -/
def firstOffset? (c : Char) : List Char → Option Nat
  | [] => none
  | d :: cs => if d == c then some 0 else (firstOffset? c cs).map (d.utf8Size + ·)

/-- What the first of some marks that the text goes on with stands for, and the offset behind
it. -/
def eatOneOf (source : String) {α : Type} :
    List (List Char × α) → Nat → Except Fault (Option (α × Nat))
  | [], _ => return none
  | (mark, a) :: marks, offset => do
    match ← eat source mark offset with
    | some next => return some (a, next)
    | none => eatOneOf source marks offset

/-- The name in angle brackets that stands at an offset, and the offset behind it. -/
def eatName (source : String) (offset : Nat) : Except Fault (Option (List Char × Nat)) := do
  match ← remaining source offset with
  | '<' :: inner =>
    match firstOffset? '>' inner with
    | some stop =>
      let name ← slice (String.ofList inner) ⟨0, stop⟩
      return if Opener.isName name.toList then some (name.toList, offset + (stop + 2)) else none
    | none => return none
  | _ => return none

/-- What may stand behind a parenthesis and a question mark, in the order in which it is tried. -/
def openerMarks : List (List Char × Opener) :=
  [(['='], .lookaround .ahead), (['!'], .lookaround .notAhead), (['<', '='], .lookaround .behind),
    (['<', '!'], .lookaround .notBehind), ([':'], .nonCapturing)]

/-- The opener that a parenthesis and a question mark start, given the offset behind these. -/
def readMarked (source : String) (inside : Nat) : Except Fault (Opener × Nat) := do
  match ← eatOneOf source openerMarks inside with
  | some found => return found
  | none =>
    match ← eatName source inside with
    | some (name, next) => return (.named name, next)
    | none => return (.special, inside)

/-- The opener that an opening parenthesis starts. -/
def readOpener (source : String) (offset : Nat) : Except Fault (Opener × Nat) := do
  let inside ← advance source offset
  match ← eat source ['?'] inside with
  | some inside => readMarked source inside
  | none => return (.capture, inside)

theorem firstOffset?_eq_none {c : Char} (h : cs.dropWhile (· != c) = []) :
    firstOffset? c cs = none := by
  induction cs with
  | nil => rfl
  | cons d cs ih =>
    rw [List.dropWhile_cons] at h
    split at h
    · next hd => simp_all [firstOffset?]
    · cases h

theorem firstOffset?_eq_some {c d : Char} {rest : List Char}
    (h : cs.dropWhile (· != c) = d :: rest) :
    firstOffset? c cs = some (utf8Length (cs.takeWhile (· != c))) := by
  induction cs with
  | nil => cases h
  | cons e cs ih =>
    rw [List.dropWhile_cons] at h
    split at h
    · next he => simp_all [firstOffset?]
    · next he => simp_all [firstOffset?]

theorem eatOneOf_eq {α : Type} (h : At source offset cs) (marks : List (List Char × α)) :
    eatOneOf source marks offset = .ok ((marks.find? (·.1.isPrefixOf cs)).map fun mark =>
      (mark.2, offset + utf8Length mark.1)) := by
  induction marks with
  | nil => rfl
  | cons mark marks ih =>
    simp only [eatOneOf, h.eat_eq, ok_bind, List.find?_cons]
    cases mark.1.isPrefixOf cs with
    | true => rfl
    | false => exact ih

/-- What stands before the first place of a character can be cut out. -/
theorem slice_takeWhile (c : Char) (cs : List Char) :
    slice (String.ofList cs) ⟨0, utf8Length (cs.takeWhile (· != c))⟩ =
      .ok (String.ofList (cs.takeWhile (· != c))) := by
  have hat := at_zero_ofList cs
  rw [← List.takeWhile_append_dropWhile (p := (· != c)) (l := cs)] at hat
  have hslice := hat.slice_eq
  rwa [Nat.zero_add, List.takeWhile_append_dropWhile] at hslice

theorem eatName_eq (h : At source offset cs) :
    eatName source offset = .ok ((Opener.scanName? cs).map fun (name, _) =>
      (name, offset + (utf8Length name + 2))) := by
  rw [eatName, h.remaining_eq, ok_bind]
  fun_cases Opener.scanName? cs with
  | case1 inner name _ rest hrest hname =>
    simp only [firstOffset?_eq_some hrest, slice_takeWhile, ok_bind, String.toList_ofList]
    exact congrArg Except.ok (if_pos hname)
  | case2 inner name _ rest hrest hname =>
    simp only [firstOffset?_eq_some hrest, slice_takeWhile, ok_bind, String.toList_ofList]
    exact congrArg Except.ok (if_neg hname)
  | case3 inner hrest =>
    simp only [firstOffset?_eq_none hrest]
    rfl
  | case4 =>
    split
    · next hcs => exact absurd rfl (hcs _)
    · rfl

theorem find?_openerMarks (h₁ : ∀ rest, cs = '=' :: rest → False)
    (h₂ : ∀ rest, cs = '!' :: rest → False) (h₃ : ∀ rest, cs = '<' :: '=' :: rest → False)
    (h₄ : ∀ rest, cs = '<' :: '!' :: rest → False) (h₅ : ∀ rest, cs = ':' :: rest → False) :
    openerMarks.find? (·.1.isPrefixOf cs) = none := by
  refine List.find?_eq_none.2 fun mark hmark hprefix => ?_
  obtain ⟨rest, rfl⟩ := List.isPrefixOf_iff_prefix.1 hprefix
  simp only [openerMarks, List.mem_cons, List.not_mem_nil, or_false] at hmark
  obtain rfl | rfl | rfl | rfl | rfl := hmark
  · exact h₁ rest rfl
  · exact h₂ rest rfl
  · exact h₃ rest rfl
  · exact h₄ rest rfl
  · exact h₅ rest rfl

theorem readMarked_of_mark {mark : List Char} {o : Opener} (h : At source offset cs)
    (hmark : openerMarks.find? (·.1.isPrefixOf cs) = some (mark, o)) :
    readMarked source offset = .ok (o, offset + utf8Length mark) := by
  rw [readMarked, eatOneOf_eq h, hmark]
  rfl

theorem readMarked_of_no_mark (h : At source offset cs)
    (hmark : openerMarks.find? (·.1.isPrefixOf cs) = none) :
    readMarked source offset = .ok (match Opener.scanName? cs with
      | some (name, _) => (.named name, offset + (utf8Length name + 2))
      | none => (.special, offset)) := by
  rw [readMarked, eatOneOf_eq h, hmark, eatName_eq h]
  cases Opener.scanName? cs <;> rfl

theorem readOpener_mark (h : At source offset ('(' :: '?' :: cs)) :
    readOpener source offset = readMarked source (offset + '('.utf8Size + '?'.utf8Size) := by
  rw [readOpener, h.advance_eq, ok_bind, h.cons.eat_cons]
  rfl

theorem readOpener_eq (h : At source offset ('(' :: cs)) : readOpener source offset =
    .ok ((Opener.scan cs).1, offset + utf8Length (Opener.scan cs).1.text) := by
  fun_cases Opener.scan cs with
  | case6 cs h₁ h₂ h₃ h₄ h₅ name rest hname =>
    have hlength : utf8Length (Opener.named name).text = 3 + (utf8Length name + 1) := by
      rw [Opener.text, utf8Length_append, utf8Length_append, Nat.add_assoc]
      rfl
    have hparenthesis : '('.utf8Size = 1 := rfl
    have hmark : '?'.utf8Size = 1 := rfl
    rw [readOpener_mark h, readMarked_of_no_mark h.cons.cons (find?_openerMarks h₁ h₂ h₃ h₄ h₅)]
    simp only [hname, hlength, hparenthesis, hmark]
    congr 2
    omega
  | case7 cs h₁ h₂ h₃ h₄ h₅ hname =>
    rw [readOpener_mark h, readMarked_of_no_mark h.cons.cons (find?_openerMarks h₁ h₂ h₃ h₄ h₅),
      hname]
    rfl
  | case8 cs _ _ _ _ _ hcs =>
    rw [readOpener, h.advance_eq, ok_bind, h.cons.eat_none hcs]
    rfl
  | _ => exact (readOpener_mark h).trans (readMarked_of_mark h.cons.cons rfl)

/-! ### Bracket expressions -/

/-- One turn of the loop over the contents of a bracket expression. -/
def contentsTurn (source : String) (offset : Nat) : Except Fault (Turn (Nat × Bool × Nat)) := do
  match ← peek source offset with
  | none => return .done (source.utf8ByteSize, false, offset)
  | some ']' => return .done (offset, true, ← advance source offset)
  | some '\\' => return .again (← advance source (← advance source offset))
  | some _ => return .again (← advance source offset)

/-- A bracket expression, given the offset at which its contents start. -/
def readContents (source : String) (negated : Bool) (start : Nat) :
    Except Fault (Token × Nat) := do
  let (stop, closed, next) ← loop source (contentsTurn source) start
  let contents ← slice source ⟨start, stop⟩
  return (.characterSet negated contents.toList closed, next)

def readCharacterSet (source : String) (offset : Nat) : Except Fault (Token × Nat) := do
  let inside ← advance source offset
  match ← eat source ['^'] inside with
  | some start => readContents source true start
  | none => readContents source false inside

section Contents

variable {contents rest : List Char} {closed : Bool}

theorem loop_contentsTurn (hscan : Token.scanContents cs = (contents, closed, rest))
    (h : At source offset cs) :
    loop source (contentsTurn source) offset = .ok (offset + utf8Length contents, closed,
      offset + utf8Length (contents ++ if closed then [']'] else [])) := by
  fun_induction Token.scanContents cs generalizing offset contents closed rest with
  | case1 =>
    cases hscan
    have hturn : contentsTurn source offset = .ok (.done (source.utf8ByteSize, false, offset)) := by
      rw [contentsTurn, h.peek_eq]
      rfl
    rw [loop_done hturn, ← h.utf8ByteSize_eq]
    rfl
  | case2 cs =>
    cases hscan
    have hturn : contentsTurn source offset =
        .ok (.done (offset, true, offset + utf8Length [']'])) := by
      rw [contentsTurn, h.peek_eq, h.advance_eq]
      rfl
    exact loop_done hturn
  | case3 c cs inner closed rest hinner ih =>
    cases hscan
    have hat : At source offset (['\\', c] ++ cs) := h
    have hturn : contentsTurn source offset = .ok (.again (offset + utf8Length ['\\', c])) := by
      rw [contentsTurn, h.peek_eq, h.advance_eq]
      simp [h.cons.advance_eq, Nat.add_assoc]
    rw [loop_again hat (List.cons_ne_nil _ _) hturn, ih hinner hat.append]
    simp [Nat.add_assoc]
  | case4 c cs hclose hescape inner closed rest hinner ih =>
    cases hscan
    have hat : At source offset ([c] ++ cs) := h
    have hturn : contentsTurn source offset = .ok (.again (offset + utf8Length [c])) := by
      rw [contentsTurn, h.peek_eq, h.advance_eq]
      by_cases hc : c = '\\'
      · -- a backslash that ends the text: there is nothing to step over behind it
        obtain rfl : cs = [] := by
          cases cs with
          | nil => rfl
          | cons d cs => exact (hescape d cs hc rfl).elim
        subst hc
        simp [h.cons.advance_nil]
      · simp
    rw [loop_again hat (List.cons_ne_nil _ _) hturn, ih hinner hat.append]
    simp [Nat.add_assoc]

theorem readContents_eq (hscan : Token.scanContents cs = (contents, closed, rest))
    (h : At source offset cs) (negated : Bool) :
    readContents source negated offset = .ok (.characterSet negated contents closed,
      offset + utf8Length (contents ++ if closed then [']'] else [])) := by
  have hcontents : At source offset (contents ++ ((if closed then [']'] else []) ++ rest)) := by
    have hcs := Token.append_scanContents cs
    rw [hscan, List.append_assoc] at hcs
    rwa [hcs]
  rw [readContents, loop_contentsTurn hscan h, ok_bind]
  simp [hcontents.slice_eq]

theorem readCharacterSet_negated (hscan : Token.scanContents cs = (contents, closed, rest))
    (h : At source offset ('[' :: '^' :: cs)) :
    readCharacterSet source offset = .ok (.characterSet true contents closed,
      offset + utf8Length (Token.characterSet true contents closed).text) := by
  rw [readCharacterSet, h.advance_eq, ok_bind, h.cons.eat_cons, ok_bind]
  refine (readContents_eq hscan h.cons.cons true).trans ?_
  simp [Token.text, Nat.add_assoc]

theorem readCharacterSet_of_ne (hscan : Token.scanContents cs = (contents, closed, rest))
    (hcs : ∀ rest, cs = '^' :: rest → False) (h : At source offset ('[' :: cs)) :
    readCharacterSet source offset = .ok (.characterSet false contents closed,
      offset + utf8Length (Token.characterSet false contents closed).text) := by
  rw [readCharacterSet, h.advance_eq, ok_bind, h.cons.eat_none hcs, ok_bind]
  refine (readContents_eq hscan h.cons false).trans ?_
  simp [Token.text, Nat.add_assoc]

end Contents

/-! ### Escapes -/

def readEscape (source : String) (offset : Nat) : Except Fault (Token × Nat) := do
  let inside ← advance source offset
  return (.escape (← peek source inside), ← advance source inside)

theorem readEscape_eq (h : At source offset ('\\' :: cs)) :
    readEscape source offset = .ok (.escape cs.head?,
      offset + utf8Length (Token.escape cs.head?).text) := by
  rw [readEscape, h.advance_eq, ok_bind, h.cons.peek_eq, ok_bind]
  cases cs with
  | nil =>
    rw [h.cons.advance_nil]
    rfl
  | cons c cs =>
    rw [h.cons.advance_eq, Nat.add_assoc]
    rfl

/-! ### Quantifiers -/

/-- One turn of the loop up to the first closing brace. -/
def braceTurn (source : String) (offset : Nat) : Except Fault (Turn Nat) := do
  match ← peek source offset with
  | none => return .done offset
  | some '}' => return .done (← advance source offset)
  | some _ => return .again (← advance source offset)

/-- A quantifier, given where its token starts and stops. A mark of laziness may follow. -/
def readLazy (source : String) (start stop : Nat) : Except Fault (Token × Nat) := do
  let token ← slice source ⟨start, stop⟩
  let mark ← eat source ['?'] stop
  return (.quantifier token.toList mark.isSome, mark.getD stop)

def readQuantifier (source : String) (offset : Nat) : Except Fault (Token × Nat) := do
  let opening ← peek source offset
  let inside ← advance source offset
  let stop ← if opening = some '{' then loop source (braceTurn source) inside else pure inside
  readLazy source offset stop

theorem loop_braceTurn (h : At source offset cs) :
    loop source (braceTurn source) offset = .ok (offset +
      utf8Length (cs.takeWhile (· != '}')) + utf8Length ((cs.dropWhile (· != '}')).take 1)) := by
  refine loop_takeWhile (fun offset cs => offset + utf8Length (cs.take 1)) ?_ ?_ h
  · intro offset c cs h hc
    rw [braceTurn, h.peek_eq, h.advance_eq]
    simp_all
  · intro offset cs h hhead
    rw [braceTurn, h.peek_eq]
    cases cs with
    | nil => rfl
    | cons c cs =>
      obtain rfl : c = '}' := by simpa using hhead
      dsimp only [List.head?_cons]
      rw [ok_bind, h.advance_eq]
      simp

theorem readLazy_eq {token rest : List Char} (h : At source offset (token ++ rest)) :
    readLazy source offset (offset + utf8Length token) =
      .ok ((Token.scanLazy token rest).1,
        offset + utf8Length (Token.scanLazy token rest).1.text) := by
  rw [readLazy, h.slice_eq, ok_bind]
  fun_cases Token.scanLazy token rest with
  | case1 rest =>
    rw [h.append.eat_cons]
    simp [Token.text, Nat.add_assoc]
  | case2 _ hrest =>
    rw [h.append.eat_none hrest]
    simp [Token.text]

theorem readQuantifier_eq {c : Char} (hc : c ≠ '{') (h : At source offset (c :: cs)) :
    readQuantifier source offset = .ok ((Token.scanLazy [c] cs).1,
      offset + utf8Length (Token.scanLazy [c] cs).1.text) := by
  have hat : At source offset ([c] ++ cs) := h
  rw [readQuantifier, h.peek_eq, h.advance_eq]
  simpa [hc] using readLazy_eq hat

/-- The token of a counted quantifier stops behind the first closing brace, or with the text. -/
theorem readQuantifier_brace (h : At source offset ('{' :: cs)) :
    readQuantifier source offset = readLazy source offset (offset + utf8Length
      ('{' :: cs.takeWhile (· != '}') ++ (cs.dropWhile (· != '}')).take 1)) := by
  rw [readQuantifier, h.peek_eq, h.advance_eq]
  simp [loop_braceTurn h.cons, Nat.add_assoc]

/-! ### Characters that stand for themselves -/

/-- One turn of the loop over a run of ordinary characters. -/
def runTurn (source : String) (offset : Nat) : Except Fault (Turn Nat) := do
  match ← peek source offset with
  | none => return .done offset
  | some c =>
    if Token.isMetacharacter c then
      return .done offset
    else
      return .again (← advance source offset)

def readRun (source : String) (offset : Nat) : Except Fault (Token × Nat) := do
  let stop ← loop source (runTurn source) offset
  let run ← slice source ⟨offset, stop⟩
  return (.literal run.toList, stop)

/-- A closing bracket or brace that closes nothing. -/
def readBracket (source : String) (offset : Nat) : Except Fault (Token × Nat) := do
  let stop ← advance source offset
  let text ← slice source ⟨offset, stop⟩
  return (.literal text.toList, stop)

theorem loop_runTurn (h : At source offset cs) : loop source (runTurn source) offset =
    .ok (offset + utf8Length (cs.takeWhile (!Token.isMetacharacter ·))) := by
  refine loop_takeWhile (fun offset _ => offset) ?_ ?_ h
  · intro offset c cs h hc
    rw [runTurn, h.peek_eq, h.advance_eq]
    simp_all
  · intro offset cs h hhead
    rw [runTurn, h.peek_eq]
    cases cs with
    | nil => rfl
    | cons c cs => simp_all

theorem readRun_eq {c : Char} (hc : Token.isMetacharacter c = false)
    (h : At source offset (c :: cs)) :
    readRun source offset = .ok (.literal (c :: cs.takeWhile (!Token.isMetacharacter ·)),
      offset + utf8Length (c :: cs.takeWhile (!Token.isMetacharacter ·))) := by
  have hrun : (c :: cs).takeWhile (!Token.isMetacharacter ·) =
      c :: cs.takeWhile (!Token.isMetacharacter ·) := by
    simp [hc]
  have hat := h
  rw [← List.takeWhile_append_dropWhile (p := (!Token.isMetacharacter ·)) (l := c :: cs)] at hat
  rw [readRun, loop_runTurn h, ok_bind, hat.slice_eq, hrun]
  simp

theorem readBracket_eq {c : Char} (h : At source offset (c :: cs)) :
    readBracket source offset = .ok (.literal [c], offset + utf8Length [c]) := by
  rw [readBracket, h.advance_eq, ok_bind, h.slice_cons, ok_bind, String.toList_ofList]
  rfl

/-! ### Tokens -/

/-- A token of one character. -/
def readSpecial (source : String) (token : Token) (offset : Nat) : Except Fault (Token × Nat) :=
  return (token, ← advance source offset)

/-- The token that starts with the character `c` at an offset, and the offset behind it. -/
def readToken (source : String) (c : Char) (offset : Nat) : Except Fault (Token × Nat) :=
  match c with
  | '(' => do
    let (o, next) ← readOpener source offset
    return (.opener o, next)
  | ')' => readSpecial source .close offset
  | '[' => readCharacterSet source offset
  | '\\' => readEscape source offset
  | '*' | '+' | '?' | '{' => readQuantifier source offset
  | '^' => readSpecial source .startAnchor offset
  | '$' => readSpecial source .endAnchor offset
  | '.' => readSpecial source .anyCharacter offset
  | '|' => readSpecial source .bar offset
  | ']' | '}' => readBracket source offset
  | _ => readRun source offset

theorem readSpecial_eq {c : Char} (h : At source offset (c :: cs)) (t : Token) :
    readSpecial source t offset = .ok (t, offset + utf8Length [c]) := by
  rw [readSpecial, h.advance_eq]
  rfl

/-- The token that the scan finds is read, and the reader stops behind it. -/
theorem readToken_eq {c : Char} (h : At source offset (c :: cs)) :
    readToken source c offset =
      .ok ((Token.scan c cs).1, offset + utf8Length (Token.scan c cs).1.text) := by
  fun_cases Token.scan c cs with
  | case1 cs o rest hscan =>
    rw [readToken, readOpener_eq h, hscan]
    rfl
  | case2 => exact readSpecial_eq h .close
  | case3 cs contents closed rest hscan => exact readCharacterSet_negated hscan h
  | case4 cs hcs contents closed rest hscan => exact readCharacterSet_of_ne hscan hcs h
  | case5 | case6 => exact readEscape_eq h
  | case7 cs brace rest hrest =>
    have hcs := List.takeWhile_append_dropWhile (p := (· != '}')) (l := cs)
    rw [hrest] at hcs
    have hat : At source offset ('{' :: cs.takeWhile (· != '}') ++ [brace] ++ rest) := by
      rw [List.append_assoc, List.cons_append]
      rwa [← hcs] at h
    refine (readQuantifier_brace h).trans ?_
    rw [hrest]
    exact readLazy_eq hat
  | case8 cs hrest =>
    have hcs := List.takeWhile_append_dropWhile (p := (· != '}')) (l := cs)
    rw [hrest, List.append_nil] at hcs
    have hat : At source offset ('{' :: cs ++ []) := by rwa [List.append_nil]
    refine (readQuantifier_brace h).trans ?_
    rw [hrest, hcs, List.take_nil, List.append_nil]
    exact readLazy_eq hat
  | case9 | case10 | case11 => exact readQuantifier_eq (by decide) h
  | case12 => exact readSpecial_eq h .startAnchor
  | case13 => exact readSpecial_eq h .endAnchor
  | case14 => exact readSpecial_eq h .anyCharacter
  | case15 => exact readSpecial_eq h .bar
  | case16 | case17 => exact readBracket_eq h
  | case18 =>
    have hc : Token.isMetacharacter c = false := by
      simp only [Token.isMetacharacter, ← Bool.not_eq_true, List.contains_iff_mem, List.mem_cons]
      simp_all
    have hread : readToken source c offset = readRun source offset := by
      simp only [readToken]
    rw [hread]
    exact readRun_eq hc h

end Bytewise

end PatternProse
