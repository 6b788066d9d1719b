/-!
# Styled text

Text for a terminal, some pieces of which are to stand out. Where the terminal shows colors, such a
piece is put between the escape sequences that turn its style on and off; elsewhere it is written
as it is.

## Main definitions

* `Style` — how a piece of text stands out.
* `StyledText` — pieces of text, with `StyledText.render`, what is written for them.
-/

namespace PatternProse.Cli

/-- A color of a terminal. -/
inductive Color
  | red
  | green
  | yellow
  | blue
  | magenta
  | cyan
  deriving Repr, DecidableEq

/-- The code of a color. -/
def Color.code : Color → List Char
  | red => ['3', '1']
  | green => ['3', '2']
  | yellow => ['3', '3']
  | blue => ['3', '4']
  | magenta => ['3', '5']
  | cyan => ['3', '6']

/-- How a piece of text stands out. -/
inductive Style
  | bold
  | dimmed
  | color (color : Color)
  | boldColor (color : Color)
  deriving Repr, DecidableEq

/-- The character that starts an escape sequence. -/
def escapeCharacter : Char := '\x1b'

namespace Style

/-- The codes of a style. -/
def codes : Style → List Char
  | bold => ['1']
  | dimmed => ['2']
  | color c => c.code
  | boldColor c => ['1', ';'] ++ c.code

/-- The escape sequence that turns a style on. -/
def start (s : Style) : List Char := [escapeCharacter, '['] ++ s.codes ++ ['m']

/-- The escape sequence that turns every style off. -/
def stop : List Char := [escapeCharacter, '[', '0', 'm']

/-- A text with the style turned on again after each escape sequence in it that turns every style
off. -/
def kept (s : Style) (cs : List Char) : List Char :=
  match cs with
  | [] => []
  | c :: rest =>
    if stop.isPrefixOf cs then stop ++ s.start ++ kept s (rest.drop 3)
    else c :: kept s rest
termination_by cs.length
decreasing_by
  all_goals simp only [List.length_cons, List.length_drop]
  all_goals omega

end Style

/-- A piece of text. -/
structure Piece where
  text : List Char
  style : Option Style := none
  deriving Repr, DecidableEq

/-- What is written for a piece of text. -/
def Piece.render (colored : Bool) (p : Piece) : List Char :=
  match p.style with
  | none => p.text
  | some s => if colored then s.start ++ s.kept p.text ++ Style.stop else p.text

/-- Pieces of text, one after the other. -/
abbrev StyledText := List Piece

namespace StyledText

/-- What is written for a text. -/
def render (colored : Bool) (t : StyledText) : String :=
  String.ofList (t.flatMap (·.render colored))

/-- Text without a style. -/
def plain (s : String) : StyledText := [⟨s.toList, none⟩]

/-- Text in a style. -/
def styled (style : Style) (s : String) : StyledText := [⟨s.toList, some style⟩]

/-- Text in a color. -/
def colored (color : Color) (s : String) : StyledText := styled (.color color) s

/-- The end of a line. -/
def newline : StyledText := plain "\n"

end StyledText

end PatternProse.Cli
