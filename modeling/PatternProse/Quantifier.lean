import PatternProse.Decimal

/-!
# Quantifiers

The repetition operators of a regular expression, without the `?` that makes one lazy. The
explainer reads them out of a pattern and blocks write them into one.

## Main definitions

* `Quantifier.ofToken?` — reads `*`, `+`, `?`, `{n}`, `{n,}` or `{n,m}`.
* `Quantifier.token` — writes a quantifier.
* `Quantifier.describe` — the sentence that explains it.
-/

namespace PatternProse

/-- How often an item is repeated. -/
inductive Quantifier
  | zeroOrMore
  | oneOrMore
  | zeroOrOne
  | exactly (count : UInt32)
  | atLeast (min : UInt32)
  | between (min max : UInt32)
  deriving Repr, DecidableEq

namespace Quantifier

/-- A count: at least one digit, nothing but digits, and a value that fits in 32 bits. -/
def count? (ds : List Char) : Option UInt32 :=
  if ds.isEmpty || !ds.all Char.isDigit then
    none
  else
    let n := Decimal.value ds
    if n < UInt32.size then some (UInt32.ofNat n) else none

/-- Reads what stands between the braces of a counted quantifier. -/
def ofCounts? (inner : List Char) : Option Quantifier :=
  match inner.span (· != ',') with
  | (min, []) => (count? min).map exactly
  | (min, [_]) => (count? min).map atLeast
  | (min, _ :: max) => do return between (← count? min) (← count? max)

/-- Reads a quantifier from the characters of its token. -/
def ofChars? : List Char → Option Quantifier
  | ['*'] => some zeroOrMore
  | ['+'] => some oneOrMore
  | ['?'] => some zeroOrOne
  | '{' :: rest => if rest.getLast? = some '}' then ofCounts? rest.dropLast else none
  | _ => none

/-- Reads a quantifier token such as `*` or `{2,5}`; the token includes no lazy mark. -/
def ofToken? (token : String) : Option Quantifier := ofChars? token.toList

/-- The characters of the token that stands for a quantifier in a pattern. -/
def chars : Quantifier → List Char
  | zeroOrMore => ['*']
  | oneOrMore => ['+']
  | zeroOrOne => ['?']
  | exactly n => '{' :: Decimal.digits n.toNat ++ ['}']
  | atLeast n => '{' :: Decimal.digits n.toNat ++ [',', '}']
  | between n m => '{' :: Decimal.digits n.toNat ++ ',' :: Decimal.digits m.toNat ++ ['}']

/-- The token that stands for a quantifier in a pattern. -/
def token (q : Quantifier) : String := String.ofList q.chars

/-- The remark on how many repetitions are preferred. -/
def modeRemark (lazy : Bool) : String :=
  if lazy then " (lazy, matching as few as possible)"
  else " (greedy, matching as many as possible)"

/-- The sentence that explains a quantifier applied to `item`. An exact count cannot vary its
length, so it never mentions the mode. -/
def describe (q : Quantifier) (item : String) (lazy : Bool) : String :=
  let mode := modeRemark lazy
  match q with
  | zeroOrMore => s!"Match {item} zero or more times{mode}"
  | oneOrMore => s!"Match {item} one or more times{mode}"
  | zeroOrOne => s!"Match {item} zero or one time{mode}"
  | exactly n =>
    let n := Decimal.text n.toNat
    s!"Match {item} exactly {n} times"
  | atLeast n =>
    let n := Decimal.text n.toNat
    s!"Match {item} at least {n} times{mode}"
  | between n m =>
    let n := Decimal.text n.toNat
    let m := Decimal.text m.toNat
    s!"Match {item} between {n} and {m} times{mode}"

end Quantifier

end PatternProse
