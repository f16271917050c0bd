import ScriptSession.CommandLine.Arguments
import ScriptSession.CommandLine.Failure
import ScriptSession.CommandLine.Host
import ScriptSession.History
import ScriptSession.Script.Reduce
import ScriptSession.Session.Repl
import ScriptSession.Settings

/-! The program as a whole: from its arguments to what it writes and the status that it ends with.
-/
namespace ScriptSession.CommandLine

/-- How the program ends. -/
structure Ended where
  code : Nat := 0
  stdout : String := ""
  stderr : String := ""
  deriving DecidableEq, Repr

def Ended.failed (f : Failure) : Ended := { code := 1, stderr := f.report }

def usageLine : String := s!"Usage: {Product.command} [OPTIONS] <COMMAND>"

def helpText : String :=
  let width := 12
  let row (name text : String) : String :=
    "  " ++ name ++ String.ofList (List.replicate (width - name.length) ' ') ++ text
  writtenLines ([Product.name, "", usageLine, "", "Commands:"]
    ++ Command.all.map (fun c => row c.name c.summary)
    ++ [row "help" "Print this message or the help of the given subcommand(s)", "", "Options:",
      "  -v, --verbose...     Increase log verbosity (-v debug, -vv trace)",
      "      --config <PATH>  Configuration file to use instead of the user config",
      "  -h, --help           Print help",
      "  -V, --version        Print version"])

def Refusal.ended : Refusal → Ended
  | .help => { stdout := helpText }
  | .version => { stdout := s!"{Product.command} {Product.version}\n" }
  | .usage message =>
    { code := 2
      stderr := s!"error: {message}\n\n{usageLine}\n\nFor more information, try '--help'.\n" }

/-- A script and where it came from. -/
structure Source where
  name : String
  text : String
  fromInput : Bool := false

def newSession (s : Settings) : Session (Script.language s.repl.prompt) :=
  { continuationPrompt := s.repl.continuationPrompt }

section

variable {m : Type → Type} [Monad m]

def decodeText (bytes : List UInt8) : Except ReadError String :=
  match Text.decode bytes with
  | .ok text => .ok text
  | .error _ => .error .notText

def readText (host : Host m) (path : String) : ExceptT ReadError m String := do
  ofExcept (decodeText (← (host.read path).adapt .file))

/-- A single dash stands for the standard input, also with slashes or dots behind it. -/
def isInput (path : String) : Bool := path.startsWith "-" && Files.names path = ["-"]

def readSource (host : Host m) (path : String) : ExceptT Failure m Source := do
  if isInput path then
    match decodeText (← host.input) with
    | .ok text => return { name := "<stdin>", text := text, fromInput := true }
    | .error error => throw (.inputScript error)
  else return { name := path, text := ← (readText host path).adapt (.script path) }

/-- A path below a directory. -/
def below (directory path : String) : String :=
  if directory = "" ∨ directory.endsWith "/" then directory ++ path else directory ++ "/" ++ path

/-- Where the user's own settings are, if anywhere. -/
def settingsPath? (host : Host m) : m (Option String) := do
  let file := Product.command ++ "/config.toml"
  match ← host.environment "XDG_CONFIG_HOME" with
  | some directory => return some (below directory file)
  | none =>
    match ← host.environment "HOME" with
    | some directory => return some (below (below directory ".config") file)
    | none => return (← host.environment "APPDATA").map (below · file)

def readSettings (host : Host m) (path : String) : ExceptT SettingsError m Settings := do
  match Settings.parse? (← (readText host path).adapt .unreadable) with
  | some settings => return settings
  | none => throw .malformed

/-- The settings in the file that the arguments name, or else in the user's own file, which need not
be there. -/
def loadSettings (host : Host m) : Option String → ExceptT Failure m Settings
  | some path => (readSettings host path).adapt (.settings path)
  | none => do
    match ← ExceptT.lift (settingsPath? host) with
    | none => return {}
    | some path =>
      if ← host.isThere path then (readSettings host path).adapt .userSettings else return {}

/-- A log file is there from the start. -/
def openLog (host : Host m) (settings : Settings) : ExceptT Failure m Unit :=
  match settings.log.file with
  | none => return ()
  | some path => (host.append path).adapt (.log path)

def batchOptions (host : Host m) (settings : Settings) (name : String)
    (diagnostics : Option DiagnosticFormat) : m BatchOptions := do
  return {
    source := name
    format := diagnostics.getD settings.run.diagnostics
    colors := settings.repl.colors && (← host.onTerminal) }

/-- Runs a script. The input is read only if the script asks for a line and did not come from there
itself. -/
def runSource (host : Host m) (settings : Settings) (source : Source)
    (diagnostics : Option DiagnosticFormat) (failure : BatchError → Failure) : m Ended := do
  let options ← batchOptions host settings source.name diagnostics
  let run (answers : Option (List UInt8)) :=
    (newSession settings).runBatch options answers source.text
  let alone := run none
  let done ←
    if alone.asked && !source.fromInput then pure (run (some (← host.input))) else pure alone
  match done.code with
  | .ok code => return { code := code, stdout := done.stdout, stderr := done.stderr }
  | .error error =>
    return { code := 1, stdout := done.stdout, stderr := done.stderr ++ (failure error).report }

def checkSource (host : Host m) (settings : Settings) (source : Source)
    (diagnostics : Option DiagnosticFormat) : m Ended := do
  let options ← batchOptions host settings source.name diagnostics
  let (code, stderr) := (newSession settings).checkBatch options source.text
  return { code := code, stderr := stderr }

/-- The lines entered in earlier sessions. -/
def loadHistory (host : Host m) (settings : PromptSettings) : m History := do
  match settings.historyFile with
  | none => return { limit := settings.historySize }
  | some path =>
    match ← (host.read path).run with
    | .ok bytes => return .ofFile settings.historySize bytes
    | .error _ => return { limit := settings.historySize }

/-- Keeps the history if there is a file for it and something has changed. -/
def saveHistory (host : Host m) (settings : PromptSettings) (history : History) : m Unit := do
  match settings.historyFile with
  | none => return ()
  | some path =>
    if history.changed then
      let _ ← (host.write path (Text.encode history.text)).run

def runRepl (host : Host m) (settings : Settings) : m Ended := do
  let history ← loadHistory host settings.repl
  let bytes ← host.input
  let reads := inputReads bytes bytes.length
  let done := (newSession settings).repl (settings.repl.colors && (← host.onTerminal)) reads
  match done.failure with
  | some message =>
    let stderr := done.stderr ++ (Failure.repl message).report
    return { code := 1, stdout := done.stdout, stderr := stderr }
  | none =>
    let entered := (reads.take (reads.length - done.reads.length)).filterMap fun
      | .line text _ => some text
      | _ => none
    saveHistory host settings.repl (entered.foldl History.push history)
    return { stdout := done.stdout, stderr := done.stderr }

def perform (host : Host m) (settings : Settings) : Request → ExceptT Failure m Ended
  | .version => return { stdout := s!"{Product.name} {Product.version}\n" }
  | .repl => ExceptT.lift (runRepl host settings)
  | .eval code diagnostics =>
    ExceptT.lift (runSource host settings ⟨"<eval>", code, false⟩ diagnostics .eval)
  | .run path diagnostics => do
    let source ← readSource host path
    ExceptT.lift (runSource host settings source diagnostics (.run path))
  | .check path diagnostics => do
    let source ← readSource host path
    ExceptT.lift (checkSource host settings source diagnostics)
  | .playground path => do
    if let some path := path then let _ ← readSource host path
    throw (.playground ["failed to enable raw mode", "No such device or address (os error 6)"])

/-- Everything from the arguments to the end. -/
def run (host : Host m) (arguments : List String) : m Ended := do
  match Arguments.parse arguments with
  | .error refusal => return refusal.ended
  | .ok arguments =>
    let work : ExceptT Failure m Ended := do
      let settings ← loadSettings host arguments.config
      openLog host settings
      perform host settings arguments.request
    match ← work.run with
    | .ok ended => return ended
    | .error failure => return .failed failure

end

end ScriptSession.CommandLine
