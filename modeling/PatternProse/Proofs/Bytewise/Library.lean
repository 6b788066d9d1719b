import PatternProse.Explain
import PatternProse.Proofs.Bytewise.Scan
import PatternProse.Proofs.PatternInput
import PatternProse.Proofs.Regex.Extent

/-!
# The library by byte offsets

Whatever takes a text apart can do so by byte offsets: the explanations of patterns and of flags,
the reading of literals, and the report of matches. None of this ends in a fault, and each result is
the one that is found character by character.

## Main definitions

* `Bytewise.explainFlags`, `Bytewise.ofText`, `Bytewise.explainInput`, `Bytewise.findMatches` — the
  functions of the same names by byte offsets.

The main statement is `Bytewise.faultless`.
-/

namespace PatternProse

namespace Bytewise

/-! ### Flags -/

/-- The fragments of the flag letters from a byte offset on. -/
def explainFlagsFrom (flags : String) (offset : Nat) : List Char → Except Fault (List Fragment)
  | [] => return []
  | c :: cs => do
    let stop := offset + c.utf8Size
    let text ← slice flags ⟨offset, stop⟩
    let rest ← explainFlagsFrom flags stop cs
    return ⟨text, flagSentence c, 0, ⟨offset, stop⟩, .flag⟩ :: rest

def explainFlags (flags : String) : Except Fault (List Fragment) :=
  explainFlagsFrom flags 0 flags.toList

theorem explainFlagsFrom_eq {flags : String} {offset : Nat} {cs : List Char}
    (h : At flags offset cs) :
    explainFlagsFrom flags offset cs = .ok (flagFragmentsFrom offset cs) := by
  induction cs generalizing offset with
  | nil => rfl
  | cons c cs ih =>
    rw [explainFlagsFrom, h.slice_cons, ok_bind, ih h.cons]
    simp [flagFragmentsFrom]

theorem explainFlags_eq (flags : String) :
    explainFlags flags = .ok (PatternProse.explainFlags flags) :=
  explainFlagsFrom_eq (at_zero flags)

/-! ### Literals -/

/-- The byte offset of the last slash of a text. -/
def lastSlash? : List Char → Option Nat
  | [] => none
  | c :: cs =>
    match lastSlash? cs with
    | some offset => some (c.utf8Size + offset)
    | none => if c == '/' then some 0 else none

def ofText (text separateFlags : String) : Except Fault PatternInput := do
  match text.toList with
  | '/' :: rest =>
    match lastSlash? rest with
    | some last =>
      let rest := String.ofList rest
      let pattern ← slice rest ⟨0, last⟩
      let flags ← slice rest ⟨last + 1, rest.utf8ByteSize⟩
      return ⟨pattern, flags⟩
    | none => return ⟨text, separateFlags⟩
  | _ => return ⟨text, separateFlags⟩

theorem lastSlash?_eq (cs : List Char) : lastSlash? cs =
    (PatternInput.cutAtLastSlash? cs).map fun (before, _) => utf8Length before := by
  induction cs with
  | nil => rfl
  | cons c cs ih =>
    rw [lastSlash?, ih, PatternInput.cutAtLastSlash?]
    cases PatternInput.cutAtLastSlash? cs with
    | some parts => rfl
    | none =>
      dsimp only [Option.map_none]
      split <;> rfl

/-- Both sides of a slash can be cut out by the byte offset of the slash. -/
theorem slice_around_slash (before after : List Char) :
    slice (String.ofList (before ++ '/' :: after)) ⟨0, utf8Length before⟩ =
        .ok (String.ofList before) ∧
      slice (String.ofList (before ++ '/' :: after))
          ⟨utf8Length before + 1, (String.ofList (before ++ '/' :: after)).utf8ByteSize⟩ =
        .ok (String.ofList after) := by
  have hat := at_zero_ofList (before ++ '/' :: after)
  have hslice := hat.slice_eq
  have hafter := hat.append.cons.slice_rest
  rw [Nat.zero_add] at hslice hafter
  exact ⟨hslice, hafter⟩

theorem ofText_eq (text separateFlags : String) :
    ofText text separateFlags = .ok (PatternInput.ofText text separateFlags) := by
  unfold ofText
  split
  · next rest hrest =>
    rw [lastSlash?_eq]
    simp only [PatternInput.ofText, hrest]
    cases hcut : PatternInput.cutAtLastSlash? rest with
    | none => rfl
    | some parts =>
      obtain ⟨before, after⟩ := parts
      obtain ⟨rfl, -⟩ := PatternInput.cutAtLastSlash?_eq_some_iff.1 hcut
      obtain ⟨hbefore, hafter⟩ := slice_around_slash before after
      dsimp only [Option.map_some]
      rw [hbefore, ok_bind, hafter]
      rfl
  · next hbare =>
    have hhead : text.toList.head? ≠ some '/' := by
      intro hhead
      obtain ⟨rest, hrest⟩ := List.head?_eq_some_iff.1 hhead
      exact hbare rest hrest
    rw [PatternInput.ofText_bare (.inl hhead)]
    rfl

/-! ### Explanations -/

def explain (pattern flags : String) : Except Fault (Except InvalidPattern Explanation) := do
  if pattern.isEmpty then
    return .ok {}
  else
    match validate pattern flags with
    | .ok () => return .ok ⟨pattern, flags, ← explainPattern pattern, ← explainFlags flags⟩
    | .error e => return .error e

def explainInput (text separateFlags : String) :
    Except Fault (Except InvalidPattern Explanation) := do
  let input ← ofText text separateFlags
  explain input.pattern input.flags

theorem explain_eq (pattern flags : String) :
    explain pattern flags = .ok (PatternProse.explain pattern flags) := by
  unfold explain PatternProse.explain
  split
  · rfl
  · cases validate pattern flags with
    | ok => simp [explainPattern_eq, explainFlags_eq]
    | error e => rfl

theorem explainInput_eq (text separateFlags : String) :
    explainInput text separateFlags = .ok (PatternProse.explainInput text separateFlags) := by
  rw [explainInput, ofText_eq, ok_bind, explain_eq]
  rfl

/-! ### Matches -/

/-- What a capture group holds, given between which positions it stands. -/
def cutGroup (text : String) : Option (Nat × Nat) → Except Fault (Option String)
  | some (start, stop) => do
    let subject := Subject.ofString text
    return some (← slice text ⟨subject.offset start, subject.offset stop⟩)
  | none => return none

/-- A match that has been found, with its texts cut out. -/
def cutMatch (text : String) (f : Regex.Found) : Except Fault Match := do
  let subject := Subject.ofString text
  let span : Span := ⟨subject.offset f.start, subject.offset f.final.position⟩
  let covered ← slice text span
  let groups ← f.final.captures.toList.mapM (cutGroup text)
  return ⟨span, covered, groups⟩

/-- The matches from a position on. The texts of a match are cut out before it is known whether it
counts. -/
def matchesFrom (re : Regex) (text : String) (global sticky : Bool) (expected start : Nat) :
    Except Fault (List Match) :=
  match _h : re.nextMatch? (Subject.ofString text).chars start with
  | none => return []
  | some f => do
    let m ← cutMatch text f
    if sticky && m.span.start != expected then
      return []
    else if global then
      let rest ← matchesFrom re text global sticky m.span.stop f.resume
      return m :: rest
    else
      return [m]
termination_by (Subject.ofString text).chars.size + 1 - start
decreasing_by
  have := Regex.start_nextMatch? _h
  simp only [Regex.Found.resume]
  omega

def findMatches (pattern flags text : String) :
    Except Fault (Except InvalidPattern (List Match)) := do
  match compile pattern flags with
  | .error e => return .error e
  | .ok re =>
    let found ← matchesFrom re text (Flag.global.isIn flags) (Flag.sticky.isIn flags) 0 0
    return .ok found

section Matches

variable {text : String}

theorem cutGroup_eq {group : Option (Nat × Nat)}
    (h : ∀ held, group = some held → held.1 ≤ held.2 ∧ held.2 ≤ text.length) :
    cutGroup text group =
      .ok (group.map fun (start, stop) => (Subject.ofString text).slice start stop) := by
  cases group with
  | none => rfl
  | some held =>
    obtain ⟨hle, hstop⟩ := h held rfl
    have hslice := slice_eq_ok_iff.2 (Subject.slice?_offset hle hstop)
    rw [cutGroup]
    dsimp only
    rw [hslice]
    rfl

theorem mapM_eq_ok {α β : Type} {f : α → Except Fault β} {g : α → β} {xs : List α}
    (h : ∀ x ∈ xs, f x = .ok (g x)) : xs.mapM f = .ok (xs.map g) := by
  induction xs with
  | nil => rfl
  | cons x xs ih =>
    obtain ⟨hx, hxs⟩ := List.forall_mem_cons.1 h
    rw [List.mapM_cons, hx, ok_bind, ih hxs]
    rfl

/-- The texts of a match that lies in the text can be cut out. -/
theorem cutMatch_eq {f : Regex.Found} (hle : f.start ≤ f.final.position)
    (hwithin : f.final.IsWithin text.length) :
    cutMatch text f = .ok (f.toMatch (Subject.ofString text)) := by
  have hslice := slice_eq_ok_iff.2 (Subject.slice?_offset hle hwithin.position_le)
  have hgroups : f.final.captures.toList.mapM (cutGroup text) =
      .ok (f.toMatch (Subject.ofString text)).groups := by
    refine mapM_eq_ok fun group hgroup => cutGroup_eq fun held hheld => ?_
    rw [hheld, Array.mem_toList_iff] at hgroup
    exact hwithin.held_le held hgroup
  rw [cutMatch, hslice, ok_bind, hgroups]
  rfl

/-- What a match adds to the report, and where the search goes on. Byte offsets tell as well as
positions whether it starts where one is expected. -/
theorem matchesFrom_of_nextMatch? {re : Regex} {global sticky : Bool} {expected start : Nat}
    {f : Regex.Found} (hexpected : expected ≤ text.length)
    (hf : re.nextMatch? (Subject.ofString text).chars start = some f) :
    f.final.position ≤ text.length ∧
      matchesFrom re text global sticky ((Subject.ofString text).offset expected) start =
        if sticky && f.start != expected then
          .ok []
        else if global then do
          let rest ← matchesFrom re text global sticky
            ((Subject.ofString text).offset f.final.position) f.resume
          return f.toMatch (Subject.ofString text) :: rest
        else
          .ok [f.toMatch (Subject.ofString text)] := by
  obtain ⟨hle, hwithin⟩ := Regex.extent_of_matchAt? (Regex.matchAt?_of_nextMatch? hf)
    (Regex.start_nextMatch? hf).2
  rw [Subject.size_chars_ofString] at hwithin
  have hsticky : ((f.toMatch (Subject.ofString text)).span.start !=
      (Subject.ofString text).offset expected) = (f.start != expected) := by
    simp [bne, Regex.start_toMatch_eq_iff hf hexpected]
  refine ⟨hwithin.position_le, ?_⟩
  rw [matchesFrom, hf]
  dsimp only
  rw [cutMatch_eq hle hwithin, ok_bind, hsticky]
  rfl

/-- The matches that are reported by byte offsets are those that are found. -/
theorem matchesFrom_eq (re : Regex) (global sticky : Bool) {expected : Nat} (start : Nat)
    (hexpected : expected ≤ text.length) :
    matchesFrom re text global sticky ((Subject.ofString text).offset expected) start =
      .ok ((re.matchesFrom (Subject.ofString text).chars global sticky expected start).map
        (·.toMatch (Subject.ofString text))) := by
  fun_induction Regex.matchesFrom re (Subject.ofString text).chars global sticky expected start with
  | case1 expected start hf =>
    rw [matchesFrom, hf]
    rfl
  | case2 expected start f hf hsticky =>
    obtain ⟨-, hstep⟩ := matchesFrom_of_nextMatch? hexpected hf
    rw [hstep, if_pos hsticky]
    rfl
  | case3 expected start f hf hsticky hglobal ih =>
    obtain ⟨hposition, hstep⟩ := matchesFrom_of_nextMatch? hexpected hf
    rw [hstep, if_neg hsticky, if_pos hglobal, ih hposition]
    rfl
  | case4 expected start f hf hsticky hglobal =>
    obtain ⟨-, hstep⟩ := matchesFrom_of_nextMatch? hexpected hf
    rw [hstep, if_neg hsticky, if_neg hglobal]
    rfl

theorem findMatches_eq (pattern flags text : String) :
    findMatches pattern flags text = .ok (PatternProse.findMatches pattern flags text) := by
  unfold findMatches PatternProse.findMatches
  cases compile pattern flags with
  | error e => rfl
  | ok re =>
    have hmatches := matchesFrom_eq re (Flag.global.isIn flags) (Flag.sticky.isIn flags) 0
      (Nat.zero_le text.length)
    rw [Subject.offset_zero] at hmatches
    dsimp only
    rw [hmatches]
    rfl

end Matches

/-- No pattern, flags or text lead to a fault: every span that is cut out runs forwards between
characters of its text, every turn of a loop moves on within its text, and the results are those
that are found character by character. -/
theorem faultless (pattern flags text separateFlags : String) :
    (∀ source span, (∃ cut, slice source span = .ok cut) ↔ span.start ≤ span.stop ∧
      String.Pos.Raw.IsValid source ⟨span.start⟩ ∧ String.Pos.Raw.IsValid source ⟨span.stop⟩) ∧
    (∀ source offset next, (∃ offset', moved source offset next = .ok offset') ↔
      offset < next ∧ next ≤ source.utf8ByteSize) ∧
    explainPattern pattern = .ok (PatternProse.explainPattern pattern) ∧
    explainFlags flags = .ok (PatternProse.explainFlags flags) ∧
    ofText text separateFlags = .ok (PatternInput.ofText text separateFlags) ∧
    explainInput text separateFlags = .ok (PatternProse.explainInput text separateFlags) ∧
    findMatches pattern flags text = .ok (PatternProse.findMatches pattern flags text) :=
  ⟨fun _ _ => exists_slice_iff, fun _ _ _ => exists_moved_iff, explainPattern_eq pattern,
    explainFlags_eq flags, ofText_eq text separateFlags, explainInput_eq text separateFlags,
    findMatches_eq pattern flags text⟩

end Bytewise

end PatternProse
