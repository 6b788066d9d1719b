import PatternProse.Cli.Report

/-!
# Running the program

A run takes a command line to what is written and to an exit code.

## Main definitions

* `Outcome` — what a run writes, and its exit code.
* `Notices` — the texts of the parser of the command line.
* `run` — the outcome of a command line.
-/

namespace PatternProse.Cli

/-- What a run of the program writes, and its exit code. -/
structure Outcome where
  code : Nat
  output : String := ""
  errors : String := ""
  deriving Repr, DecidableEq

namespace Outcome

/-- The exit code of a command that fails. -/
def failed : Nat := 1

/-- The exit code of a command line that makes no sense. -/
def misused : Nat := 2

/-- The outcome of a report. A failure is announced after all that has been written. -/
def ofReport (colors : Bool) (r : Report) : Outcome :=
  match r.failure with
  | none => { code := 0, output := r.output.render colors }
  | some message =>
    let errors := StyledText.styled (.boldColor .red) "Error:" ++
      StyledText.plain (" " ++ message) ++ StyledText.newline
    { code := failed, output := r.output.render colors, errors := errors.render colors }

end Outcome

/-- The name of the program and its version. -/
def versionLine : String := "rexplain 0.1.0\n"

/-- What the parser of the command line writes by itself, with colors or without: the help that a
command line asks for, and the notice for one that makes no sense. The wording is the parser's own
and comes from outside. Nothing is written unless it is given. -/
structure Notices where
  help : (colors : Bool) → (args : List String) → String := fun _ _ => ""
  misuse : (colors : Bool) → (args : List String) → String := fun _ _ => ""

/-- The outcome of a command line. The terminal shows colors if `colors` says so and the command
line does not forbid it. -/
def run (colors : Bool) (files : String → Except String String) (args : List String)
    (notices : Notices := {}) : Outcome :=
  match Request.ofArguments? args with
  | some (.run command noColor) => .ofReport (colors && !noColor) (command.report files)
  | some .version => { code := 0, output := versionLine }
  | some .help => { code := 0, output := notices.help colors args }
  | none => { code := Outcome.misused, errors := notices.misuse colors args }

end PatternProse.Cli
