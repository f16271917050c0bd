import ScriptSession.Diagnostic
import ScriptSession.Output

/-! What evaluating one logical statement gives. -/
namespace ScriptSession

structure Evaluation where
  /-- The merged text; none if the statement failed or was cancelled. -/
  output : Option String := none
  logs : List Diagnostic := []
  /-- A script asked for the end of the session. -/
  shouldExit : Bool := false
  cancelled : Bool := false
  /-- Everything written, in the order of its arrival. -/
  fragments : List Fragment := []
  deriving DecidableEq, Repr

namespace Evaluation

def hasErrors (e : Evaluation) : Bool := ScriptSession.hasErrors e.logs

def isSuccess (e : Evaluation) : Bool := e.output.isSome && !e.hasErrors

/-- The status that a program ends with after the evaluation. -/
def exitCode (e : Evaluation) : Nat := if e.cancelled then 130 else if e.hasErrors then 1 else 0

end Evaluation

/-- Errors that end an evaluation without a result. -/
inductive SessionError where
  /-- The evaluator broke; the causes, the outermost first. -/
  | evaluator (chain : List String)
  | terminated
  deriving DecidableEq, Repr

def SessionError.message : SessionError → String
  | .evaluator chain => "evaluator failed: " ++ ": ".intercalate chain
  | .terminated => "session has exited"

end ScriptSession
