/-!
# Spans

Byte ranges into UTF-8 text. Offsets count bytes, so a range may start or stop inside a
character; such a range covers no text.

## Main definitions

* `utf8Length` — the number of bytes that a list of characters takes.
* `dropBytes?`, `takeBytes?` — the two halves of a text cut at a byte offset.
* `Span` — a byte range, with `Span.slice?`, the text it covers.
-/

namespace PatternProse

/-- The number of bytes that the characters take in UTF-8. -/
def utf8Length : List Char → Nat
  | [] => 0
  | c :: cs => c.utf8Size + utf8Length cs

@[simp] theorem utf8Length_nil : utf8Length [] = 0 := rfl

@[simp] theorem utf8Length_cons (c : Char) (cs : List Char) :
    utf8Length (c :: cs) = c.utf8Size + utf8Length cs := rfl

@[simp] theorem utf8Length_append (xs ys : List Char) :
    utf8Length (xs ++ ys) = utf8Length xs + utf8Length ys := by
  induction xs with
  | nil => simp
  | cons c cs ih => simp [ih, Nat.add_assoc]

/-- The characters after the first `n` bytes, if `n` bytes end between two characters. -/
def dropBytes? : Nat → List Char → Option (List Char)
  | 0, cs => some cs
  | _ + 1, [] => none
  | n + 1, c :: cs => if c.utf8Size ≤ n + 1 then dropBytes? (n + 1 - c.utf8Size) cs else none
termination_by _ cs => cs

/-- The characters that make up the first `n` bytes, if `n` bytes end between two characters. -/
def takeBytes? : Nat → List Char → Option (List Char)
  | 0, _ => some []
  | _ + 1, [] => none
  | n + 1, c :: cs =>
    if c.utf8Size ≤ n + 1 then (takeBytes? (n + 1 - c.utf8Size) cs).map (c :: ·) else none
termination_by _ cs => cs

/-- A byte range: `start` belongs to it and `stop` does not. -/
structure Span where
  start : Nat := 0
  stop : Nat := 0
  deriving Repr, DecidableEq, Inhabited

namespace Span

/-- The span of the one byte at `offset`. -/
def single (offset : Nat) : Span := ⟨offset, offset + 1⟩

/-- The number of bytes covered; a range that runs backwards covers none. -/
def length (s : Span) : Nat := s.stop - s.start

/-- Whether the two ends coincide. -/
def isEmpty (s : Span) : Bool := s.start == s.stop

/-- The text that the span covers: nothing if it runs backwards, past the end, or cuts a
character. -/
def slice? (s : Span) (source : String) : Option String :=
  if s.start ≤ s.stop then do
    let rest ← dropBytes? s.start source.toList
    let text ← takeBytes? (s.stop - s.start) rest
    return String.ofList text
  else
    none

end Span

end PatternProse
