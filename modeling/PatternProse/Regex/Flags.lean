import PatternProse.Flag
import PatternProse.Regex.CharClass

/-!
# Flags of a regular expression

The four flags that change what a pattern means. Other letters of a flag string are ignored.
-/

namespace PatternProse.Regex

/-- The flags that a pattern, or a group of it, is read with. -/
structure Flags where
  ignoreCase : Bool := false
  multiline : Bool := false
  dotAll : Bool := false
  unicode : Bool := false
  deriving Repr, DecidableEq

namespace Flags

/-- The flags whose letters stand in a flag string. -/
def ofString (flags : String) : Flags where
  ignoreCase := Flag.ignoreCase.isIn flags
  multiline := Flag.multiline.isIn flags
  dotAll := Flag.dotAll.isIn flags
  unicode := Flag.unicode.isIn flags

/-- Which code points count as equal to a character of the pattern. -/
def casing (f : Flags) : Casing :=
  if f.ignoreCase then if f.unicode then .folded else .uppercase else .exact

/-- Turns the flag of a group modifier on or off, if the letter is one of a modifier. -/
def modify? (f : Flags) (letter : Char) (on : Bool) : Option Flags :=
  match letter with
  | 'i' => some { f with ignoreCase := on }
  | 'm' => some { f with multiline := on }
  | 's' => some { f with dotAll := on }
  | _ => none

end Flags

end PatternProse.Regex
