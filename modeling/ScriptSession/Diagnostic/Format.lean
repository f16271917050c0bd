import ScriptSession.Diagnostic.Json
import ScriptSession.Diagnostic.Text

/-! The choice between diagnostics for people and for programs. -/
namespace ScriptSession

inductive DiagnosticFormat where
  | text
  | json
  deriving DecidableEq, Repr

namespace DiagnosticFormat

def name : DiagnosticFormat → String
  | text => "text"
  | json => "json"

def ofName? (name : String) : Option DiagnosticFormat := [text, json].find? (·.name == name)

/-- One line for each diagnostic. Colors are for people only. -/
def lines (format : DiagnosticFormat) (colors : Bool) (source : String)
    (entries : List Diagnostic) : List String :=
  match format with
  | text => entries.map (·.line colors source)
  | json => entries.map (·.jsonLine source)

end DiagnosticFormat

/-- Lines as they are written, each with its line end. -/
def writtenLines (lines : List String) : String := String.join (lines.map (· ++ "\n"))

end ScriptSession
