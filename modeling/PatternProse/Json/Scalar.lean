import PatternProse.Hexadecimal
import PatternProse.Json.Problem
import PatternProse.Json.Value
import PatternProse.Span

/-!
# Reading strings and numbers

Each reader starts at a byte offset and returns what it has read, the offset after it and the rest
of the text. A reader that skips accepts more: halves of surrogate pairs by themselves, and numbers
of any size.

## Main definitions

* `takeString`, `skipString` — a string after its opening quote.
* `takeNumber`, `skipNumber` — a number.
-/

namespace PatternProse.Json

open Hexadecimal (digitValue?)

/-- What is read from a text: a value, the byte offset after it and the rest of the text. -/
structure Reading (α : Type) where
  value : α
  offset : Nat
  rest : List Char
  deriving Repr

/-- A reader's answer: what it has read or what is wrong. -/
abbrev Read (α : Type) := Except (Problem SyntaxProblem) (Reading α)

/-- Reports a problem. -/
def fail {α : Type} (cause : SyntaxProblem) (offset : Nat) : Except (Problem SyntaxProblem) α :=
  .error ⟨cause, offset⟩

/-! ## Strings -/

/-- The value of four hexadecimal digits. Four bytes have to follow. -/
def hexQuad (offset : Nat) (cs : List Char) : Read Nat :=
  match cs with
  | a :: b :: c :: d :: rest =>
    match digitValue? a, digitValue? b, digitValue? c, digitValue? d with
    | some a, some b, some c, some d =>
      .ok ⟨4096 * a + 256 * b + 16 * c + d, offset + 4, rest⟩
    | _, _, _, _ => fail .invalidEscape (offset + 4)
  | cs =>
    if utf8Length cs < 4 then fail .endInString (offset + utf8Length cs)
    else fail .invalidEscape (offset + 4)

theorem length_hexQuad_le {offset : Nat} {cs : List Char} {r : Reading Nat}
    (h : hexQuad offset cs = .ok r) : r.rest.length ≤ cs.length := by
  unfold hexQuad at h
  split at h
  · split at h
    · cases h; simp only [List.length_cons]; omega
    · cases h
  · split at h <;> cases h

/-- Whether a number is the first half of a surrogate pair. -/
def isHighSurrogate (n : Nat) : Bool := 0xD800 ≤ n && n ≤ 0xDBFF

/-- Whether a number is the second half of a surrogate pair. -/
def isLowSurrogate (n : Nat) : Bool := 0xDC00 ≤ n && n ≤ 0xDFFF

/-- The second half of a surrogate pair, which has to follow the first. -/
def lowSurrogate (offset : Nat) : List Char → Read Nat
  | [] => fail .endInString offset
  | ['\\'] => fail .endInString (offset + 1)
  | '\\' :: 'u' :: cs =>
    match hexQuad (offset + 2) cs with
    | .ok r => if isLowSurrogate r.value then .ok r else fail .loneSurrogate r.offset
    | .error p => .error p
  | '\\' :: _ :: _ => fail .unfinishedSurrogatePair (offset + 2)
  | _ => fail .unfinishedSurrogatePair (offset + 1)

theorem length_lowSurrogate_le {offset : Nat} {cs : List Char} {r : Reading Nat}
    (h : lowSurrogate offset cs = .ok r) : r.rest.length ≤ cs.length := by
  unfold lowSurrogate at h
  split at h
  · cases h
  · cases h
  · split at h
    · rename_i heq
      have := length_hexQuad_le heq
      split at h
      · cases h; simp only [List.length_cons]; omega
      · cases h
    · cases h
  · cases h
  · cases h

/-- The character that four digits stand for, or eight if they are halves of a surrogate pair. -/
def unicodeEscape (offset : Nat) (cs : List Char) : Read Char :=
  match hexQuad offset cs with
  | .error p => .error p
  | .ok r =>
    if isLowSurrogate r.value then fail .loneSurrogate r.offset
    else if isHighSurrogate r.value then
      match lowSurrogate r.offset r.rest with
      | .ok low =>
        .ok ⟨Char.ofNat (0x10000 + (r.value - 0xD800) * 0x400 + (low.value - 0xDC00)),
          low.offset, low.rest⟩
      | .error p => .error p
    else .ok ⟨Char.ofNat r.value, r.offset, r.rest⟩

theorem length_unicodeEscape_le {offset : Nat} {cs : List Char} {r : Reading Char}
    (h : unicodeEscape offset cs = .ok r) : r.rest.length ≤ cs.length := by
  unfold unicodeEscape at h
  split at h
  · cases h
  · rename_i heq
    have h₁ := length_hexQuad_le heq
    split at h
    · cases h
    · split at h
      · split at h
        · rename_i hlow
          have h₂ := length_lowSurrogate_le hlow
          simp only [Except.ok.injEq] at h
          subst h
          exact Nat.le_trans h₂ h₁
        · cases h
      · cases h; exact h₁

/-- The character that the letter of a short escape stands for. -/
def shortEscape? : Char → Option Char
  | '"' => some '"'
  | '\\' => some '\\'
  | '/' => some '/'
  | 'b' => some (Char.ofNat 0x08)
  | 'f' => some (Char.ofNat 0x0C)
  | 'n' => some '\n'
  | 'r' => some '\r'
  | 't' => some '\t'
  | _ => none

/-- The character that a backslash stands for, given the text after it. -/
def takeEscape (offset : Nat) : List Char → Read Char
  | [] => fail .endInString offset
  | c :: cs =>
    if c == 'u' then unicodeEscape (offset + 1) cs
    else
      match shortEscape? c with
      | some e => .ok ⟨e, offset + 1, cs⟩
      | none => fail .invalidEscape (offset + 1)

theorem length_takeEscape_lt {offset : Nat} {cs : List Char} {r : Reading Char}
    (h : takeEscape offset cs = .ok r) : r.rest.length < cs.length := by
  unfold takeEscape at h
  split at h
  · cases h
  · split at h
    · exact Nat.lt_succ_of_le (length_unicodeEscape_le h)
    · split at h
      · cases h; simp
      · cases h

/-- Takes in a string, given the text after its opening quote. -/
def takeString (offset : Nat) : List Char → Read (List Char)
  | [] => fail .endInString offset
  | '"' :: cs => .ok ⟨[], offset + 1, cs⟩
  | '\\' :: cs =>
    match _h : takeEscape (offset + 1) cs with
    | .ok e =>
      match takeString e.offset e.rest with
      | .ok r => .ok { r with value := e.value :: r.value }
      | .error p => .error p
    | .error p => .error p
  | c :: cs =>
    if c.toNat < 0x20 then fail .controlCharacter (offset + 1)
    else
      match takeString (offset + c.utf8Size) cs with
      | .ok r => .ok { r with value := c :: r.value }
      | .error p => .error p
termination_by cs => cs.length
decreasing_by
  · have := length_takeEscape_lt _h
    simp only [List.length_cons]
    omega
  · simp

/-- Skips what follows a backslash. -/
def skipEscape (offset : Nat) : List Char → Read Unit
  | [] => fail .endInString offset
  | c :: cs =>
    if c == 'u' then
      match hexQuad (offset + 1) cs with
      | .ok r => .ok ⟨(), r.offset, r.rest⟩
      | .error p => .error p
    else
      match shortEscape? c with
      | some _ => .ok ⟨(), offset + 1, cs⟩
      | none => fail .invalidEscape (offset + 1)

theorem length_skipEscape_lt {offset : Nat} {cs : List Char} {r : Reading Unit}
    (h : skipEscape offset cs = .ok r) : r.rest.length < cs.length := by
  unfold skipEscape at h
  split at h
  · cases h
  · split at h
    · split at h
      · rename_i heq
        cases h
        exact Nat.lt_succ_of_le (length_hexQuad_le heq)
      · cases h
    · split at h
      · cases h; simp
      · cases h

/-- Skips a string, given the text after its opening quote. -/
def skipString (offset : Nat) : List Char → Read Unit
  | [] => fail .endInString offset
  | '"' :: cs => .ok ⟨(), offset + 1, cs⟩
  | '\\' :: cs =>
    match _h : skipEscape (offset + 1) cs with
    | .ok e => skipString e.offset e.rest
    | .error p => .error p
  | c :: cs =>
    if c.toNat < 0x20 then fail .controlCharacter offset
    else skipString (offset + c.utf8Size) cs
termination_by cs => cs.length
decreasing_by
  · have := length_skipEscape_lt _h
    simp only [List.length_cons]
    omega
  · simp

theorem length_skipString_lt {offset : Nat} {cs : List Char} {r : Reading Unit}
    (h : skipString offset cs = .ok r) : r.rest.length < cs.length := by
  fun_induction skipString offset cs with
  | case1 => cases h
  | case2 => cases h; simp
  | case3 offset cs e heq ih =>
    have h₁ := length_skipEscape_lt heq
    have h₂ := ih h
    simp only [List.length_cons]
    omega
  | case4 => cases h
  | case5 => cases h
  | case6 offset c cs _ _ _ ih =>
    have := ih h
    simp only [List.length_cons]
    omega

/-! ## Numbers -/

/-- The greatest integer of 64 bits. -/
def maxNatural : Nat := 0xFFFFFFFFFFFFFFFF

/-- The greatest distance of an exponent from zero that is kept. -/
def maxExponent : Nat := 0x7FFFFFFF

/-- The greatest distance of a negative integer of 64 bits from zero. -/
def maxNegative : Nat := 0x8000000000000000

/-- Adds digits to a number as long as it stays within 64 bits: the number, and the digits that are
left out. -/
def addDigits (n : Nat) : List Char → Nat × List Char
  | [] => (n, [])
  | c :: cs =>
    let m := 10 * n + Decimal.digitValue c
    if m ≤ maxNatural then addDigits m cs else (n, c :: cs)

/-- An exponent that has been read: its digits kept within bounds. -/
structure Exponent where
  isNegative : Bool
  magnitude : Nat

/-- The digits of an exponent after its letter and its sign. More than `maxExponent` is out of
range as soon as the digit is read that makes it so, unless `harmless` says that the number is zero
whatever the exponent. -/
def exponentDigits (harmless isNegative : Bool) (n offset : Nat) : List Char → Read Exponent
  | [] => .ok ⟨⟨isNegative, n⟩, offset, []⟩
  | c :: cs =>
    if c.isDigit then
      let m := 10 * n + Decimal.digitValue c
      if m ≤ maxExponent then exponentDigits harmless isNegative m (offset + 1) cs
      else if harmless || isNegative then
        let more := cs.takeWhile Char.isDigit
        .ok ⟨⟨true, 2 * maxExponent⟩, offset + 1 + more.length, cs.dropWhile Char.isDigit⟩
      else fail .numberOutOfRange (offset + 1)
    else .ok ⟨⟨isNegative, n⟩, offset, c :: cs⟩

/-- Drops the sign that an exponent may start with: the offset and the text after it. -/
def skipSign (offset : Nat) : List Char → Nat × List Char
  | '+' :: cs | '-' :: cs => (offset + 1, cs)
  | cs => (offset, cs)

theorem length_skipSign_le (offset : Nat) (cs : List Char) :
    (skipSign offset cs).2.length ≤ cs.length := by
  unfold skipSign
  split <;> simp

/-- An exponent, given the text after its letter. -/
def takeExponent (harmless : Bool) (offset : Nat) (cs : List Char) : Read Exponent :=
  match skipSign offset cs with
  | (offset, []) => fail .endInValue offset
  | (offset, c :: rest) =>
    if c.isDigit then exponentDigits harmless (cs.head? == some '-') 0 offset (c :: rest)
    else fail .invalidNumber (offset + 1)

/-- The double with the given digits and decimal exponent, which has been read up to an offset. -/
def takeReal (isNegative : Bool) (digits : Nat) (exponent : Int) (offset : Nat)
    (rest : List Char) : Read Number :=
  match Binary64.ofDecimal? digits exponent with
  | some b => .ok ⟨.real isNegative b, offset, rest⟩
  | none => fail .numberOutOfRange offset

/-- The exponent that a number may go on with, which is added to the exponent known so far. -/
def takeScaled (isNegative : Bool) (digits : Nat) (exponent : Int) (offset : Nat)
    (cs : List Char) : Read Number :=
  match cs with
  | c :: rest =>
    if c == 'e' || c == 'E' then
      match takeExponent (digits == 0) (offset + 1) rest with
      | .ok r =>
        let e : Int := r.value.magnitude
        takeReal isNegative digits (if r.value.isNegative then exponent - e else exponent + e)
          r.offset r.rest
      | .error p => .error p
    else takeReal isNegative digits exponent offset cs
  | [] => takeReal isNegative digits exponent offset cs

/-- The fraction of a number, given the text after the decimal point. -/
def takeFraction (isNegative : Bool) (digits : Nat) (exponent : Int) (offset : Nat)
    (cs : List Char) : Read Number :=
  let fraction := cs.takeWhile Char.isDigit
  let rest := cs.dropWhile Char.isDigit
  if fraction.isEmpty then
    match rest with
    | [] => fail .endInValue offset
    | _ => fail .invalidNumber (offset + 1)
  else
    let (digits, left) := addDigits digits fraction
    takeScaled isNegative digits (exponent - (fraction.length - left.length : Nat))
      (offset + fraction.length) rest

/-- The integer with the given digits. One that has more than 64 bits becomes a double, and so does
the negative zero. -/
def takeInteger (isNegative : Bool) (digits offset : Nat) (rest : List Char) : Read Number :=
  if !isNegative then .ok ⟨.natural digits, offset, rest⟩
  else if digits == 0 || digits > maxNegative then takeReal true digits 0 offset rest
  else .ok ⟨.negative digits, offset, rest⟩

/-- Takes in a number after its sign. -/
def takeUnsigned (isNegative : Bool) (offset : Nat) (cs : List Char) : Read Number :=
  match cs with
  | [] => fail .endInValue offset
  | c :: cs =>
    if !c.isDigit then fail .invalidNumber (offset + 1)
    else
      let more := cs.takeWhile Char.isDigit
      if c == '0' && !more.isEmpty then fail .invalidNumber (offset + 2)
      else
        let (digits, left) := addDigits 0 (c :: more)
        let rest := cs.dropWhile Char.isDigit
        let offset := offset + 1 + more.length
        match rest with
        | '.' :: cs => takeFraction isNegative digits left.length (offset + 1) cs
        | 'e' :: _ | 'E' :: _ => takeScaled isNegative digits left.length offset rest
        | rest =>
          if left.isEmpty then takeInteger isNegative digits offset rest
          else takeReal isNegative digits left.length offset rest

/-- Takes in a number. -/
def takeNumber (offset : Nat) : List Char → Read Number
  | '-' :: cs => takeUnsigned true (offset + 1) cs
  | cs => takeUnsigned false offset cs

/-- Skips the exponent that a number may go on with. -/
def skipExponent (offset : Nat) (cs : List Char) : Read Unit :=
  match cs with
  | c :: rest =>
    if c == 'e' || c == 'E' then
      match skipSign (offset + 1) rest with
      | (offset, []) => fail .invalidNumber offset
      | (offset, d :: rest) =>
        if d.isDigit then
          .ok ⟨(), offset + 1 + (rest.takeWhile Char.isDigit).length,
            rest.dropWhile Char.isDigit⟩
        else fail .invalidNumber (offset + 1)
    else .ok ⟨(), offset, cs⟩
  | [] => .ok ⟨(), offset, cs⟩

theorem length_skipExponent_le {offset : Nat} {cs : List Char} {r : Reading Unit}
    (h : skipExponent offset cs = .ok r) : r.rest.length ≤ cs.length := by
  unfold skipExponent at h
  split at h
  · rename_i c rest
    split at h
    · have hsign := length_skipSign_le (offset + 1) rest
      split at h
      · cases h
      · rename_i d rest' heq
        rw [heq] at hsign
        split at h
        · cases h
          have := (List.dropWhile_sublist (l := rest') Char.isDigit).length_le
          simp only [List.length_cons] at *
          omega
        · cases h
    · cases h; exact Nat.le_refl _
  · cases h; exact Nat.le_refl _

/-- Skips a number after its sign. -/
def skipUnsigned (offset : Nat) (cs : List Char) : Read Unit :=
  match cs with
  | [] => fail .invalidNumber offset
  | c :: cs =>
    if !c.isDigit then fail .invalidNumber (offset + 1)
    else
      let more := cs.takeWhile Char.isDigit
      if c == '0' && !more.isEmpty then fail .invalidNumber (offset + 2)
      else
        let offset := offset + 1 + more.length
        match cs.dropWhile Char.isDigit with
        | '.' :: cs =>
          let fraction := cs.takeWhile Char.isDigit
          let rest := cs.dropWhile Char.isDigit
          if fraction.isEmpty then
            fail .invalidNumber (offset + 1 + if rest.isEmpty then 0 else 1)
          else skipExponent (offset + 1 + fraction.length) rest
        | rest => skipExponent offset rest

theorem length_skipUnsigned_lt {offset : Nat} {cs : List Char} {r : Reading Unit}
    (h : skipUnsigned offset cs = .ok r) : r.rest.length < cs.length := by
  unfold skipUnsigned at h
  split at h
  · cases h
  · rename_i c cs
    have h₁ := (List.dropWhile_sublist (l := cs) Char.isDigit).length_le
    split at h
    · cases h
    · simp only at h
      split at h
      · cases h
      · split at h
        · rename_i cs' heq
          have h₂ := (List.dropWhile_sublist (l := cs') Char.isDigit).length_le
          rw [heq] at h₁
          split at h
          · cases h
          · have h₃ := length_skipExponent_le h
            simp only [List.length_cons] at *
            omega
        · have h₂ := length_skipExponent_le h
          simp only [List.length_cons]
          omega

/-- Skips a number. -/
def skipNumber (offset : Nat) : List Char → Read Unit
  | '-' :: cs => skipUnsigned (offset + 1) cs
  | cs => skipUnsigned offset cs

theorem length_skipNumber_lt {offset : Nat} {cs : List Char} {r : Reading Unit}
    (h : skipNumber offset cs = .ok r) : r.rest.length < cs.length := by
  unfold skipNumber at h
  split at h
  · have := length_skipUnsigned_lt h
    simp only [List.length_cons]
    omega
  · exact length_skipUnsigned_lt h

end PatternProse.Json
