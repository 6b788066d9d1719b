import PatternProse.Regex.CharClass
import PatternProse.Regex.Escape

/-!
# Reading classes

Reading a bracket expression, and the escapes for Unicode properties, which also stand outside of
classes.

## Main definitions

* `propertyEscape` — the set that a property escape stands for.
* `classItems` — the items of a bracket expression up to its closing bracket.
-/

namespace PatternProse.Regex

/-- What may stand at either end of a hyphen in a class: a code point or a set of them. -/
inductive ClassAtom
  | point (c : Nat)
  | set (item : ClassItem)
  deriving Repr, DecidableEq

/-- The item of a class that holds just what an atom stands for. -/
def ClassAtom.item : ClassAtom → ClassItem
  | point c => .point c
  | set item => item

/-- The set that a property escape stands for, given the text after its letter. -/
def propertyEscape (negated : Bool) : List Char → Except SyntaxError (ClassItem × List Char)
  | '{' :: cs =>
    match cs.dropWhile (· != '}') with
    | [] => .error .invalidPropertyName
    | _ :: rest =>
      match propertyRanges? (cs.takeWhile (· != '}')) with
      | some ranges => .ok (⟨ranges, negated⟩, rest)
      | none => .error .invalidPropertyName
  | _ => .error .invalidPropertyStart

theorem length_propertyEscape_le {negated : Bool} {cs rest : List Char} {item : ClassItem}
    (h : propertyEscape negated cs = .ok (item, rest)) : rest.length ≤ cs.length := by
  unfold propertyEscape at h
  split at h
  · rename_i cs
    have := length_dropWhile_le (· != '}') cs
    split at h
    · cases h
    · rename_i heq
      rw [heq] at this
      simp only [List.length_cons] at this ⊢
      split at h
      · cases h; omega
      · cases h
  · cases h

/-- The number escape that starts with the digit `d` and the character `c` for it: an octal one,
or with `unicode` only the zero that no digit follows. -/
def digitEscape (unicode : Bool) (d : Nat) (cs : List Char) :
    Except SyntaxError (Nat × List Char) :=
  if unicode then
    if d == 0 && !(cs.head?.any Char.isDigit) then .ok (0, cs) else .error .invalidCharacterEscape
  else
    .ok (legacyOctal d cs)

theorem length_digitEscape_le {unicode : Bool} {d v : Nat} {cs rest : List Char}
    (h : digitEscape unicode d cs = .ok (v, rest)) : rest.length ≤ cs.length := by
  unfold digitEscape at h
  split at h
  · split at h
    · cases h; exact Nat.le_refl _
    · cases h
  · have := length_legacyOctal_le d cs
    simp only [Except.ok.injEq] at h
    rwa [h] at this

/-- What a backslash in a class stands for, given the text after it. -/
def classEscape (unicode : Bool) : List Char → Except SyntaxError (ClassAtom × List Char)
  | [] => .error .unterminatedEscape
  | c :: cs =>
    match CharClass.escapeItem? c with
    | some item => .ok (.set item, cs)
    | none =>
      if c == 'b' then .ok (.point 0x08, cs)
      else if c == '-' then .ok (.point '-'.toNat, cs)
      else if c == 'c' then
        match cs with
        | [] => if unicode then .error .invalidCharacterEscape else .ok (.point '\\'.toNat, [c])
        | letter :: rest =>
          if letter.isAlpha || !unicode && (letter.isDigit || letter == '_') then
            .ok (.point (controlCharacter letter), rest)
          else if unicode then .error .invalidCharacterEscape
          else .ok (.point '\\'.toNat, c :: cs)
      else if unicode && (c == 'p' || c == 'P') then
        mapRead .set (propertyEscape (c == 'P') cs)
      else
        match octalDigit? c with
        | some d => mapRead .point (digitEscape unicode d cs)
        | none => mapRead .point (characterEscape unicode c cs)

theorem length_classEscape_le {unicode : Bool} {cs rest : List Char} {a : ClassAtom}
    (h : classEscape unicode cs = .ok (a, rest)) : rest.length ≤ cs.length := by
  unfold classEscape at h
  split at h
  · cases h
  · rename_i c cs
    simp only [List.length_cons]
    split at h
    · cases h; omega
    split at h
    · cases h; omega
    split at h
    · cases h; omega
    split at h
    · split at h
      · split at h
        · cases h
        · cases h; simp
      · simp only [List.length_cons]
        split at h
        · cases h; omega
        · split at h
          · cases h
          · cases h; simp only [List.length_cons]; omega
    split at h
    · obtain ⟨_, h⟩ := of_mapRead h
      have := length_propertyEscape_le h
      omega
    split at h
    · obtain ⟨_, h⟩ := of_mapRead h
      have := length_digitEscape_le h
      omega
    · obtain ⟨_, h⟩ := of_mapRead h
      have := length_characterEscape_le h
      omega

/-- The atom that a class goes on with, given its first character. -/
def classAtom (unicode : Bool) (c : Char) (cs : List Char) :
    Except SyntaxError (ClassAtom × List Char) :=
  if c == '\\' then classEscape unicode cs else .ok (.point c.toNat, cs)

theorem length_classAtom_le {unicode : Bool} {c : Char} {cs rest : List Char} {a : ClassAtom}
    (h : classAtom unicode c cs = .ok (a, rest)) : rest.length ≤ cs.length := by
  unfold classAtom at h
  split at h
  · exact length_classEscape_le h
  · cases h; exact Nat.le_refl _

/-- The items that two atoms with a hyphen between them stand for: a range if both are code
points, and otherwise the three parts, which only the lenient grammar allows. -/
def rangeItems (unicode : Bool) (a b : ClassAtom) : Except SyntaxError (List ClassItem) :=
  match a, b with
  | .point first, .point last =>
    if first ≤ last then .ok [.range first last] else .error .reversedRange
  | a, b =>
    if unicode then .error .invalidRange else .ok [a.item, .point '-'.toNat, b.item]

/-- The items of a bracket expression up to its closing bracket. -/
def classItems (unicode : Bool) : List Char → Except SyntaxError (List ClassItem × List Char)
  | [] => .error .unbalancedBracket
  | ']' :: cs => .ok ([], cs)
  | c :: cs =>
    match _ha : classAtom unicode c cs with
    | .error e => .error e
    | .ok (a, '-' :: d :: rest) =>
      if d == ']' then
        .ok ([a.item, .point '-'.toNat], rest)
      else
        match _hb : classAtom unicode d rest with
        | .error e => .error e
        | .ok (b, rest) =>
          match rangeItems unicode a b with
          | .error e => .error e
          | .ok items => mapRead (items ++ ·) (classItems unicode rest)
    | .ok (a, rest) => mapRead (a.item :: ·) (classItems unicode rest)
termination_by cs => cs.length
decreasing_by
  · have h₁ := length_classAtom_le _ha
    have h₂ := length_classAtom_le _hb
    simp only [List.length_cons] at h₁ ⊢
    omega
  · have := length_classAtom_le _ha
    simp only [List.length_cons]
    omega

theorem length_classItems_le {unicode : Bool} {cs rest : List Char} {items : List ClassItem}
    (h : classItems unicode cs = .ok (items, rest)) : rest.length ≤ cs.length := by
  fun_induction classItems unicode cs generalizing items with
  | case1 => cases h
  | case2 cs => cases h; simp
  | case3 => cases h
  | case4 c cs _ a d rest' ha hd =>
    cases h
    have := length_classAtom_le ha
    simp only [List.length_cons] at this ⊢
    omega
  | case5 => cases h
  | case6 => cases h
  | case7 c cs _ a d rest' ha hd b rest'' hb items' hitems ih =>
    obtain ⟨more, hm⟩ := of_mapRead h
    have h₁ := length_classAtom_le ha
    have h₂ := length_classAtom_le hb
    have h₃ := ih hm
    simp only [List.length_cons] at h₁ ⊢
    omega
  | case8 c cs _ a rest' _ ha ih =>
    obtain ⟨more, hm⟩ := of_mapRead h
    have h₁ := length_classAtom_le ha
    have h₂ := ih hm
    simp only [List.length_cons]
    omega

end PatternProse.Regex
