import ScriptSession.Session
import ScriptSession.Text.Blank

/-! Commands to the session itself: lines that start with a colon, unless a statement is being
continued. -/
namespace ScriptSession

inductive CommandResult where
  | exit
  | nothing
  | output (text : String)
  deriving DecidableEq, Repr

namespace Command

def helpText : String := "\n".intercalate [
  "Available commands:",
  "  :quit, :q       - Exit the REPL",
  "  :help, :h       - Show this help",
  "  :reset          - Start over with a fresh environment",
  "  :bindings, :b   - List top-level bindings",
  "  :stats          - Show evaluation statistics",
  "End a line with \\ to continue the statement on the next line."]

/-- The first word behind the colons. -/
def name (line : String) : String :=
  let behindColons := (Text.trim line.toList).dropWhile (· = ':')
  String.ofList ((Text.blankSeparated behindColons).headD [])

def bindingsText (bindings : List Binding) : String :=
  if bindings.isEmpty then "No bindings"
  else "\n".intercalate (bindings.map fun b => s!"{b.name}: {b.summary}")

def statsText (stats : Stats) : String :=
  s!"Eval count: {stats.count}\nTotal time: {stats.total.text}\nAverage: {stats.average.text}"

end Command

namespace Session

variable {B : Backend}

def isCommand (s : Session B) (line : String) : Bool :=
  s.state != .buffering && (Text.trimStart line.toList).head? == some ':'

def command (s : Session B) (line : String) : CommandResult × Session B :=
  match Command.name line with
  | "quit" | "q" => (.exit, s)
  | "help" | "h" => (.output Command.helpText, s)
  | "reset" | "clear" => (.output "Environment reset", s.reset)
  | "bindings" | "b" => (.output (Command.bindingsText s.bindings), s)
  | "stats" => (.output (Command.statsText s.stats), s)
  | "" => (.nothing, s)
  | _ => (.output ("Unknown command: " ++ String.ofList (Text.trim line.toList)), s)

end Session

end ScriptSession
