/-!
# Arguments of the command line

A command line names a command, after options of the whole program and before the options and the
operands of the command. An option is written with two hyphens and its name, or with one hyphen
and its letter; letters may be put together. The value of an option follows after an equals sign,
as the rest of the argument or as the next argument. Two hyphens by themselves end the options.

## Main definitions

* `Command` — what the program is asked to do.
* `Request` — a command, or a question about the program itself.
* `Request.ofArguments?` — reads a command line.
-/

namespace PatternProse.Cli

/-- What the program is asked to do. -/
inductive Command
  | explain (input flags : String) (json : Bool)
  | flags (letters : String)
  | build (file : String) (explains : Bool)
  | test (input text flags : String)
  | blocks
  deriving Repr, DecidableEq

/-- What a command line asks for. -/
inductive Request
  | run (command : Command) (noColor : Bool)
  | version
  | help
  deriving Repr, DecidableEq

/-! ## Options and commands -/

/-- An option. -/
inductive Switch
  | flags
  | json
  | explain
  | noColor
  | help
  | version
  deriving Repr, DecidableEq

namespace Switch

/-- The name of an option. -/
def name : Switch → String
  | flags => "flags"
  | json => "json"
  | explain => "explain"
  | noColor => "no-color"
  | help => "help"
  | version => "version"

/-- The letter of an option that has one. -/
def letter? : Switch → Option Char
  | flags => some 'f'
  | explain => some 'e'
  | help => some 'h'
  | version => some 'V'
  | json | noColor => none

/-- Whether an option has a value. -/
def takesValue (s : Switch) : Bool := s == flags

end Switch

/-- The name of a command. -/
inductive Verb
  | explain
  | flags
  | build
  | test
  | blocks
  deriving Repr, DecidableEq

namespace Verb

/-- All names of commands. -/
def all : List Verb := [explain, flags, build, test, blocks]

/-- A name as it is written. -/
def name : Verb → String
  | explain => "explain"
  | flags => "flags"
  | build => "build"
  | test => "test"
  | blocks => "blocks"

/-- The command name that a word is. -/
def ofName? (name : String) : Option Verb := all.find? (·.name == name)

/-- The options of a command. -/
def switches : Verb → List Switch
  | explain => [.flags, .json, .noColor, .help]
  | build => [.explain, .noColor, .help]
  | test => [.flags, .noColor, .help]
  | flags | blocks => [.noColor, .help]

/-- The number of operands of a command. -/
def arity : Verb → Nat
  | explain | flags | build => 1
  | test => 2
  | blocks => 0

end Verb

/-- The options of the whole program. -/
def programSwitches : List Switch := [.noColor, .help, .version]

/-! ## Reading arguments -/

/-- Why reading ends before the arguments do. -/
inductive Stop
  /-- The arguments make no sense. -/
  | misuse
  | version
  | help
  deriving Repr, DecidableEq

/-- The options and the operands that have been read. -/
structure Given where
  switches : List (Switch × String) := []
  operands : List String := []
  deriving Repr, DecidableEq

namespace Given

/-- Whether an option has been given. -/
def has (g : Given) (s : Switch) : Bool := g.switches.any (·.1 == s)

/-- The value of an option, which is empty if the option has not been given. -/
def value (g : Given) (s : Switch) : String := (g.switches.lookup s).getD ""

/-- Adds an option. None may be given twice, and two of them are answered at once. -/
def add (g : Given) (s : Switch) (value : String) : Except Stop Given :=
  match s with
  | .help => .error .help
  | .version => .error .version
  | s => if g.has s then .error .misuse else .ok { g with switches := (s, value) :: g.switches }

/-- Adds an operand, of which there may be at most `arity`. -/
def addOperand (arity : Nat) (g : Given) (operand : String) : Except Stop Given :=
  if g.operands.length < arity then .ok { g with operands := g.operands ++ [operand] }
  else .error .misuse

end Given

/-- Reads the letters of options: what has been given, and the option that waits for its value. -/
def readLetters (switches : List Switch) (g : Given) :
    List Char → Except Stop (Given × Option Switch)
  | [] => .ok (g, none)
  | c :: cs =>
    match switches.find? (·.letter? == some c) with
    | none => .error .misuse
    | some s =>
      if s.takesValue then
        match cs with
        | [] => .ok (g, some s)
        | '=' :: cs => do return (← g.add s (String.ofList cs), none)
        | cs => do return (← g.add s (String.ofList cs), none)
      else do
        let g ← g.add s ""
        readLetters switches g cs

/-- Reads an option by its name and what follows it: what has been given, and the option that
waits for its value. -/
def readName (switches : List Switch) (g : Given) (cs : List Char) :
    Except Stop (Given × Option Switch) :=
  let name := String.ofList (cs.takeWhile (· != '='))
  match switches.find? (·.name == name), cs.dropWhile (· != '=') with
  | none, _ => .error .misuse
  | some s, [] =>
    if s.takesValue then .ok (g, some s) else do return (← g.add s "", none)
  | some s, _ :: value =>
    if s.takesValue then do return (← g.add s (String.ofList value), none) else .error .misuse

/-- What an argument is. -/
inductive Argument
  | separator
  | named (cs : List Char)
  | letters (cs : List Char)
  | operand
  deriving Repr, DecidableEq

/-- Tells what an argument is. A single hyphen is an operand. -/
def Argument.ofChars : List Char → Argument
  | ['-', '-'] => .separator
  | '-' :: '-' :: cs => .named cs
  | '-' :: c :: cs => .letters (c :: cs)
  | _ => .operand

/-- Adds the value of the option that waits for it, which is the next argument unless that is an
option itself. -/
def addAwaited (g : Given) (s : Switch) (next : String) : Except Stop Given :=
  if Argument.ofChars next.toList == .operand then g.add s next else .error .misuse

/-- Reads the arguments of a command with the given options and number of operands. -/
def readArguments (switches : List Switch) (arity : Nat) (g : Given) :
    List String → Except Stop Given
  | [] => .ok g
  | arg :: rest =>
    let goOn (read : Except Stop (Given × Option Switch)) : Except Stop Given :=
      match read, rest with
      | .error stop, _ => .error stop
      | .ok (g, none), rest => readArguments switches arity g rest
      | .ok (_, some _), [] => .error .misuse
      | .ok (g, some s), next :: rest =>
        match addAwaited g s next with
        | .ok g => readArguments switches arity g rest
        | .error stop => .error stop
    match Argument.ofChars arg.toList with
    | .separator => rest.foldlM (Given.addOperand arity) g
    | .named cs => goOn (readName switches g cs)
    | .letters cs => goOn (readLetters switches g cs)
    | .operand =>
      match g.addOperand arity arg with
      | .ok g => readArguments switches arity g rest
      | .error stop => .error stop

/-- The command with a name and what has been given for it. -/
def Verb.command? (g : Given) : Verb → Option Command
  | explain =>
    match g.operands with
    | [input] => some (.explain input (g.value .flags) (g.has .json))
    | _ => none
  | flags =>
    match g.operands with
    | [letters] => some (.flags letters)
    | _ => none
  | build =>
    match g.operands with
    | [file] => some (.build file (g.has .explain))
    | _ => none
  | test =>
    match g.operands with
    | [input, text] => some (.test input text (g.value .flags))
    | _ => none
  | blocks => some .blocks

/-- Reads what follows the name of a command. -/
def readCommand (program : Given) (verb : Verb) (args : List String) : Except Stop Request := do
  let g ← readArguments verb.switches verb.arity {} args
  match verb.command? g with
  | some command => return .run command (program.has .noColor || g.has .noColor)
  | none => .error .misuse

/-- Reads a command line. -/
def readProgram (program : Given) : List String → Except Stop Request
  | [] => .error .misuse
  | arg :: rest =>
    let goOn (read : Except Stop (Given × Option Switch)) : Except Stop Request :=
      match read with
      | .error stop => .error stop
      | .ok (program, _) => readProgram program rest
    match Argument.ofChars arg.toList with
    | .separator => .error .misuse
    | .named cs => goOn (readName programSwitches program cs)
    | .letters cs => goOn (readLetters programSwitches program cs)
    | .operand =>
      if arg == "help" then
        match rest with
        | [] => .error .help
        | [topic] =>
          if topic == "help" || (Verb.ofName? topic).isSome then .error .help else .error .misuse
        | _ => .error .misuse
      else
        match Verb.ofName? arg with
        | some verb => readCommand program verb rest
        | none => .error .misuse

/-- What a command line asks for, if it makes sense. -/
def Request.ofArguments? (args : List String) : Option Request :=
  match readProgram {} args with
  | .ok request => some request
  | .error .version => some .version
  | .error .help => some .help
  | .error .misuse => none

end PatternProse.Cli
