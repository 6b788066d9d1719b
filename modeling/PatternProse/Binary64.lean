import PatternProse.Decimal

/-!
# Binary floating point

Finite, non-negative numbers of the double format, kept exactly, with the arithmetic that reading
and writing decimals needs.

## Main definitions

* `Binary64` — a number `mantissa · 2 ^ exponent`.
* `Binary64.ofRatio?` — the double nearest to a quotient, a tie going to the even mantissa.
* `Binary64.shortest` — the shortest decimal that reads back.
* `Binary64.text` — a double in decimal notation.
-/

namespace PatternProse

/-- The number `mantissa · 2 ^ exponent`. The mantissa has at most 53 bits. -/
structure Binary64 where
  mantissa : Nat
  exponent : Int
  deriving Repr, DecidableEq

namespace Binary64

/-- The least exponent of the format. -/
def minExponent : Int := -1074

/-- The greatest exponent of the format. -/
def maxExponent : Int := 971

/-- The least mantissa of 53 bits. -/
def minMantissa : Nat := 0x10000000000000

/-- Numerator and denominator of `n / d · 2 ^ e`. -/
def scaled (n d : Nat) (e : Int) : Nat × Nat := (n <<< e.toNat, d <<< (-e).toNat)

/-- Numerator and denominator of a double. -/
def ratio (b : Binary64) : Nat × Nat := scaled b.mantissa 1 b.exponent

/-- The quotient rounded to a natural number, a tie going to the even one. -/
def roundQuotient (n d : Nat) : Nat :=
  let q := n / d
  let twice := 2 * (n % d)
  if twice > d || twice == d && q % 2 == 1 then q + 1 else q

/-- The double nearest to `n / d`, or nothing if it is beyond the greatest double. -/
def ofRatio? (n d : Nat) : Option Binary64 :=
  if n == 0 then
    some ⟨0, 0⟩
  else
    let guess : Int := (n.log2 : Int) - (d.log2 : Int) - 52
    let (n', d') := scaled n d (-guess)
    let exponent := max minExponent (if n' / d' < minMantissa then guess - 1 else guess)
    let (n', d') := scaled n d (-exponent)
    let m := roundQuotient n' d'
    let rounded : Binary64 :=
      if m == 2 * minMantissa then ⟨minMantissa, exponent + 1⟩ else ⟨m, exponent⟩
    if rounded.exponent ≤ maxExponent then some rounded else none

/-- Whether the number is zero. -/
def isZero (b : Binary64) : Bool := b.mantissa == 0

/-- The double nearest to a power of ten that is in reach. -/
def powerOfTen (k : Nat) : Binary64 := (ofRatio? (Nat.pow 10 k) 1).getD ⟨0, 0⟩

/-- The product of two doubles, rounded. -/
def mul? (a b : Binary64) : Option Binary64 :=
  ofRatio? (a.ratio.1 * b.ratio.1) (a.ratio.2 * b.ratio.2)

/-- The quotient of two doubles, rounded. -/
def div? (a b : Binary64) : Option Binary64 :=
  ofRatio? (a.ratio.1 * b.ratio.2) (a.ratio.2 * b.ratio.1)

/-- Divides by a power of ten, in steps that are in reach. -/
def scaleDown (b : Binary64) (k : Nat) : Binary64 :=
  if k ≤ 308 then (b.div? (powerOfTen k)).getD b
  else if b.isZero then b
  else scaleDown ((b.div? (powerOfTen 308)).getD b) (k - 308)
termination_by k

/-- The double that a decimal is read as: the double nearest to the digits, multiplied or divided
by a power of ten with a second rounding. Nothing if it is out of range. -/
def ofDecimal? (digits : Nat) (exponent : Int) : Option Binary64 :=
  (ofRatio? digits 1).bind fun b =>
    if exponent < 0 then some (b.scaleDown (-exponent).toNat)
    else if exponent ≤ 308 then b.mul? (powerOfTen exponent.toNat)
    else if b.isZero then some b
    else none

/-- The ends of the interval of numbers that are read as the double, with four times the double
between them, all as numerators over the denominator that comes last. -/
def neighbourhood (b : Binary64) : Nat × Nat × Nat × Nat :=
  let (n, d) := scaled 1 4 b.exponent
  let below := if b.mantissa == minMantissa && b.exponent > minExponent then 1 else 2
  ((4 * b.mantissa - below) * n, 4 * b.mantissa * n, (4 * b.mantissa + 2) * n, d)

/-- The multiple of `10 ^ k` nearest to the double among its two neighbours, if one of them is
read as the double. -/
def onGrid? (b : Binary64) (k : Int) : Option Nat :=
  let (low, value, high, d) := b.neighbourhood
  let unit := Nat.pow 10 k.toNat * d
  let scale := Nat.pow 10 (-k).toNat
  let inside (m : Nat) : Bool :=
    let x := m * unit
    if b.mantissa % 2 == 0 then low * scale ≤ x && x ≤ high * scale
    else low * scale < x && x < high * scale
  let m := value * scale / unit
  let nearer := if 2 * (value * scale % unit) < unit then [m, m + 1] else [m + 1, m]
  nearer.find? fun m => m != 0 && inside m

/-- Searches the grids of multiples of `10 ^ k`, `10 ^ (k - 1)`, …, as many as `fuel` says. -/
def shortestFrom (b : Binary64) (k : Int) : Nat → Nat × Int
  | 0 => (0, 0)
  | fuel + 1 =>
    match b.onGrid? k with
    | some m => (m, k)
    | none => shortestFrom b (k - 1) fuel

/-- The shortest decimal that is read as the double: its digits as a number, and the power of ten
that they are multiplied by. The grids run from above the greatest double to below the least. -/
def shortest (b : Binary64) : Nat × Int := if b.isZero then (0, 0) else b.shortestFrom 309 650

/-- A double in decimal notation: without an exponent if the first digit stands for a power of ten
between the fifth negative and the fifteenth positive one, and always with a decimal point or an
exponent. -/
def text (b : Binary64) : String :=
  let (m, k) := b.shortest
  let ds := Decimal.digits m
  let point := (ds.length : Int) + k
  let zeros (n : Int) : List Char := List.replicate n.toNat '0'
  if b.isZero then "0.0"
  else if 0 ≤ k && point ≤ 16 then String.ofList (ds ++ zeros k ++ ['.', '0'])
  else if 0 < point && point ≤ 16 then
    String.ofList (ds.take point.toNat ++ '.' :: ds.drop point.toNat)
  else if -5 < point && point ≤ 0 then String.ofList ('0' :: '.' :: zeros (-point) ++ ds)
  else
    let e := point - 1
    let sign := if e < 0 then '-' else '+'
    let fraction := if ds.length == 1 then [] else '.' :: ds.drop 1
    String.ofList (ds.take 1 ++ fraction ++ 'e' :: sign :: Decimal.digits e.natAbs)

end Binary64

end PatternProse
