/-! Levels of the program's own log. -/
namespace ScriptSession

inductive LogLevel where
  | trace
  | debug
  | info
  | warn
  | error
  deriving DecidableEq, Repr

namespace LogLevel

def name : LogLevel → String
  | trace => "trace"
  | debug => "debug"
  | info => "info"
  | warn => "warn"
  | error => "error"

def ofName? (name : String) : Option LogLevel :=
  [trace, debug, info, warn, error].find? (·.name == name)

/-- The level as it stands in front of a log line. -/
def label (level : LogLevel) : String := level.name.map Char.toUpper

/-- One step asks for `debug` and more for everything, whatever the level was. -/
def raisedBy (level : LogLevel) : Nat → LogLevel
  | 0 => level
  | 1 => debug
  | _ => trace

end LogLevel

end ScriptSession
