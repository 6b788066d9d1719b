import PatternProse.Cli.Run

/-!
# The program

Reads the command line, the environment and the file that is named, and writes the outcome. The
notices of a parser of command lines are left out.
-/

namespace PatternProse.Cli

/-- Whether a variable of the environment says yes: any value does but zero. -/
def saysYes? (value : Option String) : Option Bool := value.map (· != "0")

/-- Whether to show colors: if they are asked for, or else if they are not refused and the output
goes to a terminal. -/
def wantsColors (forced refused preferred : Option String) (terminal : Bool) : Bool :=
  saysYes? forced == some true ||
    (refused.isNone && (saysYes? preferred).getD true && terminal)

/-- The text of a file, or the wording of the failure to read it. -/
def readDocument (path : String) : IO (Except String String) := do
  try
    match String.fromUTF8? (← IO.FS.readBinFile path) with
    | some text => return .ok text
    | none => return .error "stream did not contain valid UTF-8"
  catch e =>
    match e with
    | .noFileOrDirectory .. => return .error "No such file or directory (os error 2)"
    | e => return .error e.toString

/-- The text of the file that a command line names, if it names one. -/
def documentOf (args : List String) : IO (Except String String) :=
  match Request.ofArguments? args with
  | some (.run (.build file _) _) => readDocument file
  | _ => return .ok ""

end PatternProse.Cli

/-- Runs the program. -/
def main (args : List String) : IO UInt32 := do
  let stdout ← IO.getStdout
  let colors := PatternProse.Cli.wantsColors (← IO.getEnv "CLICOLOR_FORCE")
    (← IO.getEnv "NO_COLOR") (← IO.getEnv "CLICOLOR") (← stdout.isTty)
  let document ← PatternProse.Cli.documentOf args
  let outcome := PatternProse.Cli.run colors (fun _ => document) args
  stdout.putStr outcome.output
  (← IO.getStderr).putStr outcome.errors
  return UInt32.ofNat outcome.code
