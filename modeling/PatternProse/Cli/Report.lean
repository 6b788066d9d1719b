import PatternProse.Block.Document
import PatternProse.Block.Pattern
import PatternProse.Cli.Arguments
import PatternProse.Cli.StyledText
import PatternProse.Explain
import PatternProse.Fragment.Document
import PatternProse.Json.Printer
import PatternProse.Match

/-!
# Reports

What the program writes for a command. A command that fails may have written something before.

## Main definitions

* `Report` — what is written, and why the command fails if it does.
* `Command.report` — the report of a command.
-/

namespace PatternProse.Cli

open StyledText (plain styled colored newline)

/-- What a command writes, and the wording of its failure. -/
structure Report where
  output : StyledText := []
  failure : Option String := none
  deriving Repr, DecidableEq

namespace Report

/-- Writes a text before all the rest. -/
def after (written : StyledText) (r : Report) : Report := { r with output := written ++ r.output }

/-- The report of a failure. -/
def fail (message : String) : Report := { failure := some message }

end Report

/-! ## Explanations -/

/-- The style of a fragment's source text. -/
def fragmentStyle : FragmentKind → Style
  | .group | .lookaround => .boldColor .magenta
  | .literal => .color .green
  | .characterSet | .escape | .anyCharacter => .color .cyan
  | .quantifier => .color .yellow
  | .anchor | .alternation => .boldColor .blue
  | .flag => .boldColor .yellow

/-- A fragment on two lines: its source text, and its explanation two columns further on. -/
def fragmentLines (f : Fragment) : StyledText :=
  let indent := String.ofList (List.replicate (2 * (f.depth + 1)) ' ')
  plain indent ++ styled (fragmentStyle f.kind) f.sourceText ++ newline ++
    plain (indent ++ "  " ++ f.explanation) ++ newline

/-- Fragments under a title. -/
def titled (title : String) (fragments : List Fragment) : StyledText :=
  styled .bold title ++ newline ++ fragments.flatMap fragmentLines

/-- An explanation. -/
def explanationLines (e : Explanation) : StyledText :=
  styled .bold "This regular expression:" ++ newline ++
  plain "  " ++ colored .cyan e.literal ++ newline ++ newline ++
  if e.fragments.isEmpty then
    styled .dimmed "No pattern to explain" ++ newline
  else
    titled "Matches:" e.fragments ++
      if e.flagFragments.isEmpty then [] else newline ++ titled "Flags:" e.flagFragments

/-- The report of `explain`. -/
def explainReport (input flags : String) (json : Bool) : Report :=
  match explainInput input flags with
  | .error e => .fail e.message
  | .ok e => { output := if json then plain e.toJson.pretty ++ newline else explanationLines e }

/-- The report of `flags`. -/
def flagsReport (flags : String) : Report where
  output :=
    if flags.isEmpty then styled .dimmed "No flags" ++ newline
    else titled "Flags:" (explainFlags flags)

/-! ## Blocks -/

/-- The pattern of a document of blocks. -/
def patternLines (pattern : String) : StyledText :=
  styled .bold "Pattern:" ++ newline ++ plain "  " ++ colored .green pattern ++ newline

/-- The report of `build` on a document or on the failure to read it. -/
def buildReport (document : Except String String) (explains : Bool) : Report :=
  match document with
  | .error message => .fail message
  | .ok document =>
    match Block.ofDocument? document with
    | .error p => .fail (Block.InvalidBlocks.document p).message
    | .ok bs =>
      let pattern := Block.formatAll bs
      .after (patternLines pattern) <|
        if explains then
          .after newline <|
            match explain pattern "" with
            | .error e => .fail e.message
            | .ok e => { output := explanationLines e }
        else {}

/-- A text filled up with blanks to a width. -/
def padded (width : Nat) (s : String) : String :=
  s ++ String.ofList (List.replicate (width - s.length) ' ')

/-- A block on a line, in columns. -/
def blockLine (b : Block) : StyledText :=
  plain "  " ++ colored .cyan (padded 22 b.kind.name) ++
  plain (" " ++ padded 20 b.kind.label ++ " ") ++ colored .green (padded 10 b.pattern) ++
  plain " " ++ styled .dimmed b.kind.description ++ newline

/-- The report of `blocks`. -/
def blocksReport : Report where
  output := styled .bold "Available blocks:" ++ newline ++ Block.palette.flatMap blockLine

/-! ## Matches -/

/-- A capture group on a line. -/
def groupLine (number : Nat) (group : Option String) : StyledText :=
  plain ("      Group " ++ Decimal.text number ++ ": ") ++
  (match group with
    | some text => colored .green text
    | none => styled .dimmed "undefined") ++ newline

/-- A match and its capture groups on lines. -/
def matchLines (number : Nat) (m : Match) : StyledText :=
  plain ("  [" ++ Decimal.text number ++ "] " ++ Decimal.text m.span.start ++ ".." ++
    Decimal.text m.span.stop ++ " = ") ++
  colored .green m.text ++ newline ++
  (m.groups.zipIdx 1).flatMap fun (group, number) => groupLine number group

/-- The matches that have been found. -/
def foundLines (found : List Match) : StyledText :=
  if found.isEmpty then styled (.color .red) "✗ No match" ++ newline
  else
    styled .bold "Found" ++ plain " " ++
    colored .green (Decimal.text found.length ++ " match(es)") ++ newline ++ newline ++
    (found.zipIdx 1).flatMap fun (m, number) => matchLines number m

/-- The report of `test`. -/
def testReport (input text flags : String) : Report :=
  let input := PatternInput.ofText input flags
  let announced :=
    styled .bold "Testing pattern..." ++ newline ++
    plain "  Pattern: " ++ colored .cyan ("/" ++ input.pattern ++ "/" ++ input.flags) ++ newline ++
    plain "  Input:   " ++ colored .yellow text ++ newline ++ newline
  .after announced <|
    match findMatches input.pattern input.flags text with
    | .error e => .fail e.message
    | .ok found => { output := foundLines found }

/-- The report of a command. What the files hold is given by `files`, as their text or as the
wording of the failure to read them. -/
def Command.report (files : String → Except String String) : Command → Report
  | .explain input letters json => explainReport input letters json
  | .flags letters => flagsReport letters
  | .build file explains => buildReport (files file) explains
  | .test input text letters => testReport input text letters
  | .blocks => blocksReport

end PatternProse.Cli
