import ScriptSession.Process
import ScriptSession.Script.Value

/-! Environments of a script, and evaluations as state over them. A procedure sees its own
parameters and the globals and nothing of its callers. -/
namespace ScriptSession.Script

structure Environment where
  globals : Bindings := []
  /-- One frame for each active call, the innermost one first. -/
  frames : List Bindings := []
  /-- Expressions under evaluation. -/
  nesting : Nat := 0
  /-- The number of the next procedure. -/
  nextClosure : Nat := 0

namespace Environment

def lookup? (env : Environment) (name : String) : Option Value :=
  match env.frames with
  | [] => env.globals.get? name
  | frame :: _ => (frame.get? name).or (env.globals.get? name)

/-- Binds in the innermost frame, or globally outside every call. -/
def define (env : Environment) (name : String) (value : Value) : Environment :=
  match env.frames with
  | [] => { env with globals := env.globals.set name value }
  | frame :: outer => { env with frames := frame.set name value :: outer }

def depth (env : Environment) : Nat := env.frames.length

/-- An evaluation that was given up inside a call leaves its frames behind; the next statement
starts without them. No procedure outside the globals is alive then. -/
def atTopLevel (env : Environment) : Environment where
  globals := env.globals
  nextClosure := env.globals.freshId

end Environment

/-- Why an evaluation ends early. -/
inductive Stop where
  | exit
  | failure (message : String) (range : Option Span)
  | cancelled
  deriving DecidableEq, Repr

/-- A failure without a range gets one. -/
def Stop.orAt (stop : Stop) (range : Span) : Stop :=
  match stop with
  | failure message none => failure message (some range)
  | other => other

/-- A process over environments that may end early. -/
def Evaluates (α : Type) : Type := Environment → Process Environment (Except Stop α)

namespace Evaluates

protected def pure {α : Type} (a : α) : Evaluates α := fun env => .done env (.ok a)

protected def bind {α β : Type} (m : Evaluates α) (next : α → Evaluates β) : Evaluates β :=
  fun env => (m env).bind fun env result =>
    match result with
    | .ok a => next a env
    | .error stop => .done env (.error stop)

instance : Monad Evaluates where
  pure := Evaluates.pure
  bind := Evaluates.bind

def stop {α : Type} (reason : Stop) : Evaluates α := fun env => .done env (.error reason)

def fail {α : Type} (message : String) : Evaluates α := stop (.failure message none)

def failAt {α : Type} (message : String) (range : Span) : Evaluates α :=
  stop (.failure message (some range))

def ofExcept {α : Type} : Except String α → Evaluates α
  | .ok a => pure a
  | .error message => fail message

def ask (request : Call) : Evaluates request.Reply := fun env =>
  (Process.ask env request).bind fun env reply => .done env (.ok reply)

def get : Evaluates Environment := fun env => .done env (.ok env)

def modify (f : Environment → Environment) : Evaluates Unit := fun env => .done (f env) (.ok ())

/-- Failures without a range are about this one. -/
def located {α : Type} (m : Evaluates α) (range : Span) : Evaluates α := fun env =>
  (m env).bind fun env result => .done env (result.mapError (·.orAt range))

/-- Enters, runs and leaves again, however the run ends. -/
def between {α : Type} (enter leave : Environment → Environment) (m : Evaluates α) : Evaluates α :=
  fun env => (m (enter env)).bind fun env result => .done (leave env) result

/-- Runs inside a call whose parameters are bound in the frame. -/
def inFrame {α : Type} (frame : Bindings) (m : Evaluates α) : Evaluates α :=
  between (fun env => { env with frames := frame :: env.frames })
    (fun env => { env with frames := env.frames.tail }) m

/-- Runs with one more expression under evaluation. -/
def nested {α : Type} (m : Evaluates α) : Evaluates α :=
  between (fun env => { env with nesting := env.nesting + 1 })
    (fun env => { env with nesting := env.nesting - 1 }) m

def checkAborted : Evaluates Unit := do
  if ← ask .aborted then stop .cancelled

end Evaluates

end ScriptSession.Script
