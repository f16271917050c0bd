import ScriptSession.Span

/-! What an evaluation or a check reports: errors and warnings, each with the stretch of text that it
is about, if there is one. Which text that is a range does not say. -/
namespace ScriptSession

inductive Severity where
  | error
  | warning
  deriving DecidableEq, Repr

def Severity.name : Severity → String
  | .error => "error"
  | .warning => "warning"

structure Diagnostic where
  severity : Severity
  message : String
  range : Option Span
  deriving DecidableEq, Repr

namespace Diagnostic

def error (message : String) (range : Option Span) : Diagnostic := ⟨.error, message, range⟩

def warning (message : String) (range : Option Span) : Diagnostic := ⟨.warning, message, range⟩

def isError (d : Diagnostic) : Bool := d.severity == .error

/-- A diagnostic without the name of its source. -/
def text (d : Diagnostic) : String :=
  match d.range with
  | some range => s!"{range.text}: {d.severity.name}: {d.message}"
  | none => s!"{d.severity.name}: {d.message}"

end Diagnostic

/-- Warnings alone are no failure. -/
def hasErrors (entries : List Diagnostic) : Bool := entries.any Diagnostic.isError

end ScriptSession
