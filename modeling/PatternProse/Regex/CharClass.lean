import PatternProse.Unicode.BinaryProperty
import PatternProse.Unicode.CaseMapping
import PatternProse.Unicode.Script

/-!
# Character classes

Sets of code points as regular expressions write them, and what it takes for two code points to
count as equal. Code points are natural numbers, since a pattern may name the halves of surrogate
pairs, which no text contains.

## Main definitions

* `Casing` — whether differences of case matter, and which.
* `CharClass` — a set of code points, with `CharClass.contains`.
* `CharClass.digit`, `CharClass.word`, `CharClass.space`, `CharClass.lineEnd` — common sets.
* `propertyRanges?` — the code points with a named Unicode property.
-/

namespace PatternProse.Regex

open Unicode

/-- Which code points count as equal. -/
inductive Casing
  /-- Only a code point and itself. -/
  | exact
  /-- Those with the same simple upper case. -/
  | uppercase
  /-- Those with the same simple folded form. -/
  | folded
  deriving Repr, DecidableEq

namespace Casing

/-- The code point that stands for all those equal to `c`. -/
def canonical : Casing → Nat → Nat
  | exact, c => c
  | uppercase, c => simpleUppercase c
  | folded, c => simpleFold c

/-- Whether two code points count as equal. -/
def same (k : Casing) (a b : Nat) : Bool := a == b || k.canonical a == k.canonical b

end Casing

/-- An item of a class: all code points in some ranges, or all others. -/
structure ClassItem where
  ranges : List CodeRange
  negated : Bool := false
  deriving Repr, DecidableEq

namespace ClassItem

/-- The item of one code point. -/
def point (c : Nat) : ClassItem := ⟨[⟨c, c⟩], false⟩

/-- The item of the code points from `first` to `last`. -/
def range (first last : Nat) : ClassItem := ⟨[⟨first, last⟩], false⟩

/-- Whether the item has a code point. -/
def contains (i : ClassItem) (c : Nat) : Bool := CodeRange.anyContains i.ranges c != i.negated

/-- All code points that an item has not. -/
def complement (i : ClassItem) : ClassItem := { i with negated := !i.negated }

end ClassItem

/-- A set of code points: those in some item, or with `negated` those in none. With `folded` a
code point is in an item as soon as one with the same folded form is. -/
structure CharClass where
  items : List ClassItem
  negated : Bool := false
  folded : Bool := false
  deriving Repr, DecidableEq

namespace CharClass

/-- Whether some item has a code point. -/
def hasItemWith (k : CharClass) (c : Nat) : Bool := k.items.any (·.contains c)

/-- Whether the class has a code point. -/
def contains (k : CharClass) (c : Nat) : Bool :=
  (k.hasItemWith c || (k.folded && (foldOrbit c).any k.hasItemWith)) != k.negated

/-- The decimal digits. -/
def digit : ClassItem := ⟨[⟨0x30, 0x39⟩], false⟩

/-- The characters of words: letters, digits and the underscore of ASCII. -/
def word : ClassItem := ⟨[⟨0x30, 0x39⟩, ⟨0x41, 0x5A⟩, ⟨0x5F, 0x5F⟩, ⟨0x61, 0x7A⟩], false⟩

/-- White space, the ends of lines included. -/
def space : ClassItem :=
  ⟨[⟨0x09, 0x0D⟩, ⟨0x20, 0x20⟩, ⟨0xA0, 0xA0⟩, ⟨0x1680, 0x1680⟩, ⟨0x2000, 0x200A⟩,
    ⟨0x2028, 0x2029⟩, ⟨0x202F, 0x202F⟩, ⟨0x205F, 0x205F⟩, ⟨0x3000, 0x3000⟩, ⟨0xFEFF, 0xFEFF⟩],
    false⟩

/-- The characters that end a line. -/
def lineEnd : ClassItem := ⟨[⟨0x0A, 0x0A⟩, ⟨0x0D, 0x0D⟩, ⟨0x2028, 0x2029⟩], false⟩

/-- The class that a dot stands for. -/
def dot (dotAll : Bool) : CharClass :=
  { items := if dotAll then [] else [lineEnd], negated := true }

/-- The class of one item. -/
def ofItem (i : ClassItem) : CharClass := { items := [i] }

/-- The item that the letter of a class escape stands for. -/
def escapeItem? : Char → Option ClassItem
  | 'd' => some digit
  | 'D' => some digit.complement
  | 'w' => some word
  | 'W' => some word.complement
  | 's' => some space
  | 'S' => some space.complement
  | _ => none

end CharClass

/-- The code points with a Unicode property, which is given by a name alone or by a name and a
value. -/
def propertyRanges? (property : List Char) : Option (List CodeRange) :=
  let name := String.ofList (property.takeWhile (· != '='))
  match property.dropWhile (· != '=') with
  | [] => (generalCategory? name).or (binaryProperty? name)
  | _ :: value =>
    let value := String.ofList value
    match name with
    | "General_Category" | "gc" => generalCategory? value
    | "Script" | "sc" => script? value
    | "Script_Extensions" | "scx" => scriptExtensions? value
    | _ => none

end PatternProse.Regex
