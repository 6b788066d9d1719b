import PatternProse.Unicode.BinaryProperty

/-!
# Classes of characters

The classes of characters that patterns and documents need outside of regular expressions. Each
answers at once for ASCII and looks up a table for the rest.

## Main definitions

* `isAlphanumeric` — letters and numbers of any script.
* `isIdentifierStart`, `isIdentifierPart` — the code points of identifiers.
* `isBlank` — white space.
* `isVisible` — what shows by itself.
-/

namespace PatternProse.Unicode

/-- Whether the property or category is among `ranges?` for a code point beyond ASCII. -/
def inTable (ranges? : Option (List CodeRange)) (c : Nat) : Bool :=
  CodeRange.anyContains (ranges?.getD []) c

/-- Whether a character is a letter or a number: it is alphabetic, or its category is one of
numbers. -/
def isAlphanumeric (c : Char) : Bool :=
  if c.toNat < 128 then c.isAlphanum
  else inTable (binaryProperty? "Alphabetic") c.toNat || inTable (generalCategory? "N") c.toNat

/-- Whether an identifier may start with the code point. -/
def isIdentifierStart (c : Nat) : Bool :=
  if c < 128 then (Char.ofNat c).isAlpha || c == '$'.toNat || c == '_'.toNat
  else inTable (binaryProperty? "ID_Start") c

/-- Whether an identifier may go on with the code point; the two joiners may stand in one. -/
def isIdentifierPart (c : Nat) : Bool :=
  if c < 128 then (Char.ofNat c).isAlphanum || c == '$'.toNat || c == '_'.toNat
  else c == 0x200C || c == 0x200D || inTable (binaryProperty? "ID_Continue") c

/-- Whether a character is white space. -/
def isBlank (c : Char) : Bool :=
  CodeRange.anyContains
    [⟨0x09, 0x0D⟩, ⟨0x20, 0x20⟩, ⟨0x85, 0x85⟩, ⟨0xA0, 0xA0⟩, ⟨0x1680, 0x1680⟩, ⟨0x2000, 0x200A⟩,
      ⟨0x2028, 0x2029⟩, ⟨0x202F, 0x202F⟩, ⟨0x205F, 0x205F⟩, ⟨0x3000, 0x3000⟩]
    c.toNat

/-- Whether a character shows by itself: it is neither a control or format character, nor a
separator other than the space, nor one that joins the character before it. -/
def isVisible (c : Char) : Bool :=
  if c.toNat < 127 then 0x20 ≤ c.toNat
  else
    !(inTable (generalCategory? "C") c.toNat || inTable (generalCategory? "Z") c.toNat ||
      inTable (binaryProperty? "Grapheme_Extend") c.toNat)

end PatternProse.Unicode
