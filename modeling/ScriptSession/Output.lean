/-! What a statement writes: the values of its parts and the messages it sends to the console. -/
namespace ScriptSession

inductive Level where
  | log
  | info
  | warn
  | error
  | debug
  deriving DecidableEq, Repr

def Level.name : Level → String
  | .log => "log"
  | .info => "info"
  | .warn => "warn"
  | .error => "error"
  | .debug => "debug"

inductive Origin where
  | result
  | console (level : Level)
  deriving DecidableEq, Repr

structure Fragment where
  origin : Origin
  text : String
  deriving DecidableEq, Repr

namespace Fragment

def result (text : String) : Fragment := ⟨.result, text⟩

def console (level : Level) (text : String) : Fragment := ⟨.console level, text⟩

def isResult (f : Fragment) : Bool := f.origin == .result

/-- The texts of the fragments of one kind, one below the other. -/
def joined (fragments : List Fragment) (results : Bool) : String :=
  "\n".intercalate ((fragments.filter (·.isResult == results)).map (·.text))

/-- Results stand above the console's messages; an empty part leaves no line. -/
def merged (fragments : List Fragment) : String :=
  let results := joined fragments true
  let console := joined fragments false
  if results.isEmpty then console
  else if console.isEmpty then results
  else results ++ "\n" ++ console

end Fragment

end ScriptSession
