import PatternProse.Regex.ClassReader
import PatternProse.Regex.Flags
import PatternProse.Regex.Node

/-!
# Capture groups and escapes outside of classes

A back reference may come before the group that it names, so the capture groups of a pattern are
listed before the pattern is read.

## Main definitions

* `captureNames` — the names of all capture groups of a pattern in order.
* `atomEscape` — the node that a backslash outside of a class stands for.
-/

namespace PatternProse.Regex

/-- What follows a bracket expression. An escaped bracket does not close it. -/
def skipClass : List Char → List Char
  | [] => []
  | '\\' :: _ :: cs => skipClass cs
  | ']' :: cs => cs
  | _ :: cs => skipClass cs

theorem length_skipClass_le (cs : List Char) : (skipClass cs).length ≤ cs.length := by
  fun_induction skipClass cs with
  | case1 => exact Nat.le_refl _
  | case3 => exact Nat.le_succ _
  | case2 _ _ ih => simp only [List.length_cons]; omega
  | case4 _ _ _ _ ih => simp only [List.length_cons]; omega

/-- The names of the capture groups of a pattern in order, after those in `names`. Each plain
parenthesis opens a group without a name, and no name may be given twice. -/
def captureNames (names : List (Option String)) :
    List Char → Except SyntaxError (List (Option String))
  | [] => .ok names
  | '\\' :: _ :: cs => captureNames names cs
  | '[' :: cs => captureNames names (skipClass cs)
  | '(' :: '?' :: cs =>
    match _h : groupName? cs with
    | some (name, rest) =>
      if names.contains (some name) then .error .duplicateGroupName
      else captureNames (names ++ [some name]) rest
    | none => captureNames names cs
  | '(' :: cs => captureNames (names ++ [none]) cs
  | _ :: cs => captureNames names cs
termination_by cs => cs.length
decreasing_by
  · simp only [List.length_cons]; omega
  · have := length_skipClass_le cs
    simp only [List.length_cons]; omega
  · have := length_groupName?_lt _h
    simp only [List.length_cons]; omega
  all_goals simp only [List.length_cons]; omega

/-- What all of a pattern is read with: its own flags and the names of all its capture groups. -/
structure Scope where
  flags : Flags
  groups : List (Option String)
  deriving Repr, DecidableEq

/-- The back reference or the character that an escape with the nonzero digit `c` stands for. It
is a back reference if there are as many groups as the number says. -/
def numberEscape (scope : Scope) (flags : Flags) (c : Char) (cs : List Char) :
    Except SyntaxError (Node × List Char) :=
  let n := Decimal.value (c :: cs.takeWhile Char.isDigit)
  if n ≤ scope.groups.length then
    .ok (.reference scope.flags.casing (n - 1), cs.dropWhile Char.isDigit)
  else if flags.unicode then
    .error .invalidCharacterEscape
  else
    match octalDigit? c with
    | some d => let (v, rest) := legacyOctal d cs; .ok (.char flags.casing v, rest)
    | none => .ok (.char flags.casing c.toNat, cs)

theorem length_numberEscape_le {scope : Scope} {flags : Flags} {c : Char} {cs rest : List Char}
    {n : Node} (h : numberEscape scope flags c cs = .ok (n, rest)) :
    rest.length ≤ cs.length := by
  simp only [numberEscape] at h
  split at h
  · cases h
    exact length_dropWhile_le _ _
  split at h
  · cases h
  split at h
  · cases h
    exact length_legacyOctal_le _ _
  · cases h
    exact Nat.le_refl _

/-- The back reference by name that the text after `\k` stands for. -/
def namedReference (scope : Scope) (cs : List Char) : Except SyntaxError (Node × List Char) :=
  match groupName? cs with
  | none => .error .malformedNamedReference
  | some (name, rest) =>
    match scope.groups.idxOf? (some name) with
    | some i => .ok (.reference scope.flags.casing i, rest)
    | none => .error (.unknownNamedReference name)

theorem length_namedReference_le {scope : Scope} {cs rest : List Char} {n : Node}
    (h : namedReference scope cs = .ok (n, rest)) : rest.length ≤ cs.length := by
  unfold namedReference at h
  split at h
  · cases h
  · rename_i heq
    have := length_groupName?_lt heq
    split at h
    · cases h; omega
    · cases h

/-- The node that a backslash stands for, given the text after it. -/
def atomEscape (scope : Scope) (flags : Flags) : List Char → Except SyntaxError (Node × List Char)
  | [] => .error .incompleteEscape
  | c :: cs =>
    match CharClass.escapeItem? c with
    | some item => .ok (.set (.ofItem item), cs)
    | none =>
      if c == 'b' then .ok (.assertion (.wordBoundary false), cs)
      else if c == 'B' then .ok (.assertion (.wordBoundary true), cs)
      else if c == 'c' then
        match cs with
        | letter :: rest =>
          if letter.isAlpha then .ok (.char flags.casing (controlCharacter letter), rest)
          else if flags.unicode then .error .invalidCharacterEscape
          else .ok (.char flags.casing '\\'.toNat, c :: cs)
        | [] =>
          if flags.unicode then .error .invalidCharacterEscape
          else .ok (.char flags.casing '\\'.toNat, [c])
      else if flags.unicode && (c == 'p' || c == 'P') then
        mapRead (fun item => .set (.ofItem item)) (propertyEscape (c == 'P') cs)
      else if c == 'k' && (flags.unicode || scope.groups.any Option.isSome) then
        namedReference scope cs
      else if c == '0' then
        mapRead (.char flags.casing) (digitEscape flags.unicode 0 cs)
      else if c.isDigit then
        numberEscape scope flags c cs
      else
        mapRead (.char flags.casing) (characterEscape flags.unicode c cs)

theorem length_atomEscape_le {scope : Scope} {flags : Flags} {cs rest : List Char} {n : Node}
    (h : atomEscape scope flags cs = .ok (n, rest)) : rest.length ≤ cs.length := by
  unfold atomEscape at h
  split at h
  · cases h
  · rename_i c cs
    simp only [List.length_cons]
    split at h
    · cases h; omega
    split at h
    · cases h; omega
    split at h
    · cases h; omega
    split at h
    · split at h
      · simp only [List.length_cons]
        split at h
        · cases h; omega
        · split at h
          · cases h
          · cases h; simp only [List.length_cons]; omega
      · split at h
        · cases h
        · cases h; simp
    split at h
    · obtain ⟨_, h⟩ := of_mapRead h
      have := length_propertyEscape_le h
      omega
    split at h
    · have := length_namedReference_le h
      omega
    split at h
    · obtain ⟨_, h⟩ := of_mapRead h
      have := length_digitEscape_le h
      omega
    split at h
    · have := length_numberEscape_le h
      omega
    · obtain ⟨_, h⟩ := of_mapRead h
      have := length_characterEscape_le h
      omega

end PatternProse.Regex
