import PatternProse.Decimal
import PatternProse.Hexadecimal
import PatternProse.Regex.SyntaxError
import PatternProse.Unicode.CharClass

/-!
# Escapes of regular expressions

Reading what follows a backslash, as far as outside and inside of classes agree, and reading the
names of groups, which may hold escapes.

Every reader takes the text after the point it has reached and returns what remains of it; the
lemmas say that no more remains than there was.

## Main definitions

* `mapRead` — applies a function to what a reader has read.
* `unicodeEscape?` — the code point after `\u`.
* `legacyOctal` — an octal escape of up to three digits.
* `characterEscape` — the code point of an escaped character.
* `groupName?` — the name of a group in angle brackets.
-/

namespace PatternProse.Regex

/-- Applies a function to what has been read. -/
def mapRead {α β : Type} (f : α → β) :
    Except SyntaxError (α × List Char) → Except SyntaxError (β × List Char)
  | .ok (a, rest) => .ok (f a, rest)
  | .error e => .error e

theorem of_mapRead {α β : Type} {f : α → β} {r : Except SyntaxError (α × List Char)} {b : β}
    {rest : List Char} (h : mapRead f r = .ok (b, rest)) : ∃ a, r = .ok (a, rest) := by
  match r with
  | .ok (a, _) => cases h; exact ⟨a, rfl⟩
  | .error e => cases h

/-- The value of exactly `n` hexadecimal digits; `v` is the value of those before. -/
def hexDigits? (n v : Nat) (cs : List Char) : Option (Nat × List Char) :=
  match n, cs with
  | 0, cs => some (v, cs)
  | _ + 1, [] => none
  | n + 1, c :: cs => (Hexadecimal.digitValue? c).bind fun d => hexDigits? n (16 * v + d) cs

theorem length_hexDigits?_le {n v : Nat} {cs rest : List Char} {w : Nat}
    (h : hexDigits? n v cs = some (w, rest)) : rest.length ≤ cs.length := by
  fun_induction hexDigits? n v cs with
  | case1 v cs => cases h; exact Nat.le_refl _
  | case2 => cases h
  | case3 v n c cs ih =>
    obtain ⟨d, -, hd⟩ := Option.bind_eq_some_iff.1 h
    have := ih d hd
    simp only [List.length_cons]
    omega

/-- The code point in braces that a text starts with. -/
def bracedCodePoint? (cs : List Char) : Option (Nat × List Char) :=
  match cs.dropWhile (· != '}') with
  | [] => none
  | _ :: rest =>
    let ds := cs.takeWhile (· != '}')
    match hexDigits? ds.length 0 ds with
    | some (v, _) => if !ds.isEmpty && v ≤ 0x10FFFF then some (v, rest) else none
    | none => none

theorem length_dropWhile_le (p : Char → Bool) (cs : List Char) :
    (cs.dropWhile p).length ≤ cs.length := (List.dropWhile_sublist p).length_le

theorem length_bracedCodePoint?_le {cs rest : List Char} {v : Nat}
    (h : bracedCodePoint? cs = some (v, rest)) : rest.length ≤ cs.length := by
  have hd := length_dropWhile_le (· != '}') cs
  simp only [bracedCodePoint?] at h
  split at h
  · cases h
  · rename_i heq
    rw [heq] at hd
    simp only [List.length_cons] at hd
    split at h
    · split at h
      · cases h; omega
      · cases h
    · cases h

/-- The low half of a surrogate pair that a text starts with, written as an escape of its own. -/
def lowSurrogate? : List Char → Option (Nat × List Char)
  | '\\' :: 'u' :: cs =>
    match hexDigits? 4 0 cs with
    | some (v, rest) => if 0xDC00 ≤ v && v ≤ 0xDFFF then some (v, rest) else none
    | none => none
  | _ => none

theorem length_lowSurrogate?_le {cs rest : List Char} {v : Nat}
    (h : lowSurrogate? cs = some (v, rest)) : rest.length ≤ cs.length := by
  unfold lowSurrogate? at h
  split at h
  · split at h
    · rename_i heq
      have := length_hexDigits?_le heq
      split at h
      · cases h; simp only [List.length_cons]; omega
      · cases h
    · cases h
  · cases h

/-- The code point that the text after `\u` stands for. Two escapes for the halves of a surrogate
pair stand for one code point. -/
def unicodeEscape? (cs : List Char) : Option (Nat × List Char) :=
  match cs with
  | '{' :: cs => bracedCodePoint? cs
  | cs =>
    match hexDigits? 4 0 cs with
    | none => none
    | some (v, rest) =>
      if 0xD800 ≤ v && v ≤ 0xDBFF then
        match lowSurrogate? rest with
        | some (low, rest) => some (0x10000 + (v - 0xD800) * 0x400 + (low - 0xDC00), rest)
        | none => some (v, rest)
      else
        some (v, rest)

theorem length_unicodeEscape?_le {cs rest : List Char} {v : Nat}
    (h : unicodeEscape? cs = some (v, rest)) : rest.length ≤ cs.length := by
  unfold unicodeEscape? at h
  split at h
  · have := length_bracedCodePoint?_le h
    simp only [List.length_cons]
    omega
  · split at h
    · cases h
    · rename_i heq
      have := length_hexDigits?_le heq
      split at h
      · split at h
        · rename_i hlow
          have := length_lowSurrogate?_le hlow
          simp only [Option.some.injEq, Prod.mk.injEq] at h
          obtain ⟨-, rfl⟩ := h
          omega
        · cases h; omega
      · cases h; omega

/-- The value of an octal digit. -/
def octalDigit? (c : Char) : Option Nat :=
  if '0' ≤ c && c ≤ '7' then some (c.toNat - '0'.toNat) else none

/-- The value of an octal escape with the first digit `d`, which may go on for two digits, or for
one if the value would not fit in a byte. -/
def legacyOctal (d : Nat) : List Char → Nat × List Char
  | [] => (d, [])
  | c :: cs =>
    match octalDigit? c with
    | none => (d, c :: cs)
    | some e =>
      match cs with
      | [] => (8 * d + e, [])
      | c :: cs =>
        match octalDigit? c with
        | some f => if d ≤ 3 then (8 * (8 * d + e) + f, cs) else (8 * d + e, c :: cs)
        | none => (8 * d + e, c :: cs)

theorem length_legacyOctal_le (d : Nat) (cs : List Char) :
    (legacyOctal d cs).2.length ≤ cs.length := by
  unfold legacyOctal
  split
  · exact Nat.le_refl _
  · split
    · exact Nat.le_refl _
    · split
      · simp
      · split
        · split <;> simp only [List.length_cons] <;> omega
        · simp

/-- The control character that a letter stands for after `\c`. -/
def controlCharacter (letter : Char) : Nat := letter.toNat % 32

/-- Whether a character has to be escaped to stand for itself, in some place. -/
def isSyntaxCharacter (c : Char) : Bool :=
  ['^', '$', '\\', '.', '*', '+', '?', '(', ')', '[', ']', '{', '}', '|', '/'].contains c

/-- The code point that the escaped character `c` stands for, where the digits, the letters that
stand for classes and what else depends on the place have been dealt with. Two characters that
should be digits are lost after `\x` even if they are none. -/
def characterEscape (unicode : Bool) (c : Char) (cs : List Char) :
    Except SyntaxError (Nat × List Char) :=
  match c with
  | 't' => .ok (0x09, cs)
  | 'n' => .ok (0x0A, cs)
  | 'v' => .ok (0x0B, cs)
  | 'f' => .ok (0x0C, cs)
  | 'r' => .ok (0x0D, cs)
  | 'x' =>
    match hexDigits? 2 0 cs with
    | some (v, rest) => .ok (v, rest)
    | none => if unicode then .error .invalidCharacterEscape else .ok ('x'.toNat, cs.drop 2)
  | 'u' =>
    match unicodeEscape? cs with
    | some (v, rest) => .ok (v, rest)
    | none => if unicode then .error .invalidUnicodeEscape else .ok ('u'.toNat, cs)
  | c =>
    if unicode && !isSyntaxCharacter c then .error .invalidCharacterEscape else .ok (c.toNat, cs)

theorem length_characterEscape_le {unicode : Bool} {c : Char} {cs rest : List Char} {v : Nat}
    (h : characterEscape unicode c cs = .ok (v, rest)) : rest.length ≤ cs.length := by
  unfold characterEscape at h
  split at h
  iterate 5 cases h; exact Nat.le_refl _
  · split at h
    · rename_i heq
      cases h
      exact length_hexDigits?_le heq
    · split at h
      · cases h
      · cases h; simp
  · split at h
    · rename_i heq
      cases h
      exact length_unicodeEscape?_le heq
    · split at h
      · cases h
      · cases h; exact Nat.le_refl _
  · split at h
    · cases h
    · cases h; exact Nat.le_refl _

/-- The next code point of a group name, which may be written as an escape. -/
def nameCodePoint? : List Char → Option (Nat × List Char)
  | [] => none
  | '\\' :: 'u' :: cs => unicodeEscape? cs
  | c :: cs => some (c.toNat, cs)

theorem length_nameCodePoint?_lt {cs rest : List Char} {v : Nat}
    (h : nameCodePoint? cs = some (v, rest)) : rest.length < cs.length := by
  unfold nameCodePoint? at h
  split at h
  · cases h
  · have := length_unicodeEscape?_le h
    simp only [List.length_cons]
    omega
  · cases h; simp

/-- The remaining characters of a group name up to the closing angle bracket. -/
def nameRest? (cs : List Char) : Option (List Char × List Char) :=
  match _h : nameCodePoint? cs with
  | none => none
  | some (c, rest) =>
    if c == '>'.toNat then some ([], rest)
    else if Unicode.isIdentifierPart c then
      (nameRest? rest).map fun (name, rest) => (Char.ofNat c :: name, rest)
    else none
termination_by cs.length
decreasing_by exact length_nameCodePoint?_lt _h

theorem length_nameRest?_le {cs name rest : List Char} (h : nameRest? cs = some (name, rest)) :
    rest.length ≤ cs.length := by
  fun_induction nameRest? cs generalizing name with
  | case1 => cases h
  | case2 cs c rest' hc =>
    cases h
    exact Nat.le_of_lt (length_nameCodePoint?_lt hc)
  | case3 cs c rest' hc _ _ ih =>
    have := length_nameCodePoint?_lt hc
    obtain ⟨⟨n, r⟩, hr, heq⟩ := Option.map_eq_some_iff.1 h
    cases heq
    have := ih hr
    omega
  | case4 => cases h

/-- The name in angle brackets that a text starts with. -/
def groupName? : List Char → Option (String × List Char)
  | '<' :: cs =>
    match nameCodePoint? cs with
    | some (c, rest) =>
      if Unicode.isIdentifierStart c then
        (nameRest? rest).map fun (name, rest) => (String.ofList (Char.ofNat c :: name), rest)
      else none
    | none => none
  | _ => none

theorem length_groupName?_lt {cs rest : List Char} {name : String}
    (h : groupName? cs = some (name, rest)) : rest.length < cs.length := by
  unfold groupName? at h
  split at h
  · split at h
    · rename_i hc
      have := length_nameCodePoint?_lt hc
      split at h
      · obtain ⟨⟨n, r⟩, hr, heq⟩ := Option.map_eq_some_iff.1 h
        cases heq
        have := length_nameRest?_le hr
        simp only [List.length_cons]
        omega
      · cases h
    · cases h
  · cases h

end PatternProse.Regex
