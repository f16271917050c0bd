import ScriptSession.Diagnostic.Format
import ScriptSession.Product

/-! The arguments of the program: options and one command, which has options and an operand of its
own. The options for the log and the settings may stand on both sides of the command's name, and
those behind it count.

A value is looked at when the next option is met or when the arguments are over. So a wrong value in
front of a request for help is an error, and one behind it goes unnoticed. -/
namespace ScriptSession.CommandLine

inductive Command where
  | repl
  | run
  | eval
  | check
  | playground
  | version
  deriving DecidableEq, Repr

namespace Command

def all : List Command := [repl, run, eval, check, playground, version]

def name : Command → String
  | repl => "repl"
  | run => "run"
  | eval => "eval"
  | check => "check"
  | playground => "playground"
  | version => "version"

def ofName? (name : String) : Option Command := all.find? (·.name == name)

def summary : Command → String
  | repl => "Start the interactive REPL"
  | run => "Run a script file ('-' reads stdin)"
  | eval => "Evaluate code from the command line"
  | check => "Check a script for syntax errors without running it"
  | playground => "Open the TUI playground"
  | version => "Print version information"

def takesOperand : Command → Bool
  | run | eval | check | playground => true
  | repl | version => false

/-- An operand that names a file is not empty. -/
def takesFile : Command → Bool
  | run | check | playground => true
  | eval | repl | version => false

def takesDiagnostics : Command → Bool
  | run | eval | check => true
  | repl | playground | version => false

end Command

/-- What the program is asked to do. -/
inductive Request where
  | repl
  | run (file : String) (diagnostics : Option DiagnosticFormat)
  | eval (code : String) (diagnostics : Option DiagnosticFormat)
  | check (file : String) (diagnostics : Option DiagnosticFormat)
  | playground (file : Option String)
  | version
  deriving DecidableEq, Repr

structure Arguments where
  request : Request
  /-- How many steps more the log is to say. -/
  verbosity : Nat := 0
  /-- The settings file to use instead of the user's own. -/
  config : Option String := none
  deriving DecidableEq, Repr

/-- What arguments lead to when there is nothing to do, or nothing that can be done. -/
inductive Refusal where
  | help
  | version
  | usage (message : String)
  deriving DecidableEq, Repr

/-- Options with a value. -/
inductive Setting where
  | config
  | diagnostics
  deriving DecidableEq, Repr

def Setting.name : Setting → String
  | config => "config"
  | diagnostics => "diagnostics"

/-- Options without one. -/
inductive Flag where
  | verbose
  | help
  | version
  deriving DecidableEq, Repr

/-- What was read and has not been looked at yet. -/
inductive Pending where
  | nothing
  /-- An option whose value is the next argument. -/
  | awaited (setting : Setting)
  | value (setting : Setting) (text : String)
  | operand (text : String)
  deriving DecidableEq, Repr

/-- The arguments on one side of the command's name. -/
structure Side where
  /-- The command that they belong to; none in front of its name. -/
  command : Option Command := none
  verbosity : Nat := 0
  config : Option String := none
  diagnostics : Option DiagnosticFormat := none
  operand : Option String := none
  pending : Pending := .nothing
  /-- Whether an operand may still come. -/
  operandFree : Bool := command.any (·.takesOperand)
  /-- Behind two dashes everything is an operand. -/
  onlyOperands : Bool := false

namespace Side

def unexpected (text : String) : Refusal := .usage s!"unexpected argument '{text}' found"

/-- Takes the value of an option, which is given once. -/
def take (s : Side) (setting : Setting) (text : String) : Except Refusal Side :=
  match setting with
  | .config =>
    if text = "" then
      .error (.usage "a value is required for '--config <PATH>' but none was supplied")
    else if s.config.isSome then
      .error (.usage "the argument '--config <PATH>' cannot be used multiple times")
    else .ok { s with config := some text }
  | .diagnostics =>
    match DiagnosticFormat.ofName? text with
    | none => .error (.usage s!"invalid value '{text}' for '--diagnostics <DIAGNOSTICS>'")
    | some format =>
      if s.diagnostics.isSome then
        .error (.usage "the argument '--diagnostics <DIAGNOSTICS>' cannot be used multiple times")
      else .ok { s with diagnostics := some format }

/-- Looks at what is pending. -/
def settle (s : Side) : Except Refusal Side :=
  let clear := { s with pending := .nothing }
  match s.pending with
  | .nothing => .ok s
  | .awaited setting =>
    .error (.usage s!"a value is required for '--{setting.name}' but none was supplied")
  | .value setting text => clear.take setting text
  | .operand text =>
    if text = "" ∧ s.command.any (·.takesFile) then
      .error (.usage "a value is required for '<FILE>' but none was supplied")
    else .ok { clear with operand := some text }

def flag? (s : Side) (name : String) : Option Flag :=
  match name with
  | "verbose" | "v" => some .verbose
  | "help" | "h" => some .help
  | "version" | "V" => if s.command.isNone then some .version else none
  | _ => none

def setting? (s : Side) (name : String) : Option Setting :=
  match name with
  | "config" => some .config
  | "diagnostics" => if s.command.any (·.takesDiagnostics) then some .diagnostics else none
  | _ => none

def raise (s : Side) (flag : Flag) : Except Refusal Side := do
  let s ← s.settle
  match flag with
  | .verbose => .ok { s with verbosity := s.verbosity + 1 }
  | .help => .error .help
  | .version => .error .version

/-- An option behind two dashes; its value may stand behind an equals sign. -/
def addLong (s : Side) (text : List Char) : Except Refusal Side :=
  let name := String.ofList (text.takeWhile (· ≠ '='))
  let attached := (text.dropWhile (· ≠ '=')).tail?.map String.ofList
  if name.length = 1 then .error (unexpected ("--" ++ String.ofList text))
  else
    match s.flag? name, s.setting? name, attached with
    | some flag, _, none => s.raise flag
    | none, some setting, none => do
      let s ← s.settle
      .ok { s with pending := .awaited setting }
    | none, some setting, some value => do
      let s ← s.settle
      s.take setting value
    | _, _, _ => .error (unexpected ("--" ++ String.ofList text))

/-- Flags of one letter each behind a dash. -/
def addShort (s : Side) : List Char → Except Refusal Side
  | [] => .ok s
  | c :: rest =>
    match s.flag? (String.ofList [c]) with
    | none => .error (unexpected (String.ofList ['-', c]))
    | some flag => do
      let s ← s.raise flag
      s.addShort rest

def addOperand (s : Side) (text : String) : Except Refusal Side :=
  if s.operandFree then do
    let s ← s.settle
    .ok { s with pending := .operand text, operandFree := false }
  else .error (unexpected text)

def add (s : Side) (text : String) : Except Refusal Side :=
  if s.onlyOperands then s.addOperand text
  else
    match text.toList, s.pending with
    | ['-', '-'], _ => .ok { s with onlyOperands := true }
    | '-' :: '-' :: long, _ => s.addLong long
    | '-' :: c :: short, _ => s.addShort (c :: short)
    | _, .awaited setting => .ok { s with pending := .value setting text }
    | _, _ => s.addOperand text

/-- Whether an argument in front may be a command's name: not where the value of an option is
awaited. -/
def expectsCommand (s : Side) : Bool :=
  !s.onlyOperands && (match s.pending with
    | .awaited _ => false
    | _ => true)

end Side

/-- Help on one command, or on the program. -/
def helpOn : List String → Refusal
  | [] => .help
  | [name] =>
    if name = "help" ∨ (Command.ofName? name).isSome then .help
    else .usage s!"unrecognized subcommand '{name}'"
  | _ :: name :: _ => .usage s!"unrecognized subcommand '{name}'"

/-- What stands in front of the command's name, the command and what stands behind. -/
def splitCommand (front : Side) : List String → Except Refusal (Side × Command × List String)
  | [] => do
    let _ ← front.settle
    .error (.usage "a command is required")
  | text :: rest =>
    if front.expectsCommand ∧ text = "help" then .error (helpOn rest)
    else
      match if front.expectsCommand then Command.ofName? text else none with
      | some command => .ok (front, command, rest)
      | none => do
        let front ← front.add text
        splitCommand front rest

def Command.request (command : Command) (s : Side) : Except Refusal Request :=
  match command, s.operand with
  | .repl, _ => .ok .repl
  | .version, _ => .ok .version
  | .playground, file => .ok (.playground file)
  | .run, some file => .ok (.run file s.diagnostics)
  | .eval, some code => .ok (.eval code s.diagnostics)
  | .check, some file => .ok (.check file s.diagnostics)
  | .run, none | .check, none => .error (.usage "the argument '<FILE>' was not provided")
  | .eval, none => .error (.usage "the argument '<CODE>' was not provided")

def Arguments.parse (arguments : List String) : Except Refusal Arguments := do
  let (front, command, rest) ← splitCommand {} arguments
  let behind ← rest.foldlM Side.add { command := some command }
  let behind ← behind.settle
  let request ← command.request behind
  let front ← front.settle
  .ok
    { request := request
      verbosity := if 0 < behind.verbosity then behind.verbosity else front.verbosity
      config := behind.config <|> front.config }

end ScriptSession.CommandLine
