import PatternProse.Decimal
import PatternProse.Fragment
import PatternProse.Json.Value

/-!
# Explanations as JSON

The JSON value of an explanation, with its members in the order of the fields.
-/

namespace PatternProse

/-- A natural number as a JSON value. -/
def Json.ofNat (n : Nat) : Json := .number (.natural n)

/-- The JSON value of a span. -/
def Span.toJson (s : Span) : Json :=
  .object [("start", .ofNat s.start), ("end", .ofNat s.stop)]

/-- The JSON value of a fragment. -/
def Fragment.toJson (f : Fragment) : Json :=
  .object [("sourceText", .string f.sourceText), ("explanation", .string f.explanation),
    ("depth", .ofNat f.depth), ("span", f.span.toJson), ("kind", .string f.kind.name)]

/-- The JSON value of an explanation. -/
def Explanation.toJson (e : Explanation) : Json :=
  .object [("pattern", .string e.pattern), ("flags", .string e.flags),
    ("fragments", .array (e.fragments.map Fragment.toJson)),
    ("flagFragments", .array (e.flagFragments.map Fragment.toJson))]

end PatternProse
