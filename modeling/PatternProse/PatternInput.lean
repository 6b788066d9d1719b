/-!
# Pattern input

What a user types is either a bare pattern, with its flags given apart, or a literal with slashes
around the pattern and the flags behind it.
-/

namespace PatternProse

/-- A pattern and the flags that go with it. -/
structure PatternInput where
  pattern : String
  flags : String
  deriving Repr, DecidableEq

namespace PatternInput

/-- Cuts a text at its last slash, which belongs to neither part. -/
def cutAtLastSlash? : List Char → Option (List Char × List Char)
  | [] => none
  | c :: cs =>
    match cutAtLastSlash? cs with
    | some (before, after) => some (c :: before, after)
    | none => if c == '/' then some ([], cs) else none

/-- Reads a text that may be a literal. One that does not start with a slash, or has no other
slash, is a pattern as it stands, and `separateFlags` are its flags. -/
def ofText (text separateFlags : String) : PatternInput :=
  let bare : PatternInput := ⟨text, separateFlags⟩
  match text.toList with
  | '/' :: rest =>
    match cutAtLastSlash? rest with
    | some (pattern, flags) => ⟨String.ofList pattern, String.ofList flags⟩
    | none => bare
  | _ => bare

end PatternInput

end PatternProse
