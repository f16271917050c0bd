import ScriptSession.Diagnostic
import ScriptSession.Output

/-! What an evaluation does, step by step. A process is done, or it calls the session it runs in and
goes on with the reply. Every call shows the state at that point, which is what stays behind if the
evaluation is given up there. Calls answer at once, except for a line or a pause, which may take
time or end with the evaluation's cancellation. -/
namespace ScriptSession

inductive Call where
  | emit (fragment : Fragment)
  | warn (message : String) (range : Option Span)
  /-- Whether the evaluation has been cancelled. -/
  | aborted
  /-- The number of the evaluation's cancellation token. -/
  | generation
  /-- How many collectors are installed on the console. -/
  | consoleDepth
  /-- A line from the user; no line if the evaluation is cancelled. -/
  | readLine (prompt : String)
  /-- Whether the time has passed; if not, the evaluation is cancelled. -/
  | sleep (millis : Nat)

abbrev Call.Reply : Call → Type
  | .emit _ | .warn _ _ => Unit
  | .aborted | .sleep _ => Bool
  | .generation | .consoleDepth => Nat
  | .readLine _ => Option String

inductive Process (σ α : Type) where
  | done (state : σ) (result : α)
  | call (state : σ) (request : Call) (resume : request.Reply → Process σ α)

namespace Process

/-- The state shown by the next call, or the final one. -/
def state {σ α : Type} : Process σ α → σ
  | done s _ => s
  | call s _ _ => s

def bind {σ α β : Type} (p : Process σ α) (next : σ → α → Process σ β) : Process σ β :=
  match p with
  | done s a => next s a
  | call s request resume => call s request fun reply => bind (resume reply) next

/-- One call and nothing else. -/
def ask {σ : Type} (s : σ) (request : Call) : Process σ request.Reply :=
  call s request fun reply => done s reply

theorem bind_done {σ α : Type} (p : Process σ α) : p.bind done = p := by
  induction p with
  | done => rfl
  | call s request resume ih =>
    simp only [bind]
    exact congrArg _ (funext ih)

theorem bind_bind {σ α β γ : Type} (p : Process σ α) (f : σ → α → Process σ β)
    (g : σ → β → Process σ γ) : (p.bind f).bind g = p.bind fun s a => (f s a).bind g := by
  induction p with
  | done => rfl
  | call s request resume ih =>
    simp only [bind]
    exact congrArg _ (funext ih)

end Process

/-- How the reduction of one statement ends. -/
inductive Outcome where
  | value (text : String)
  | unit
  /-- The script asks for the end of the session. -/
  | exit
  | failed (message : String) (range : Option Span)
  | cancelled
  /-- The evaluator itself broke; the chain starts with the outermost cause. -/
  | crashed (chain : List String)
  deriving DecidableEq, Repr

/-- A name and a short text of its value. -/
structure Binding where
  name : String
  summary : String
  deriving DecidableEq, Repr

/-- A language that a session can run: how a text becomes statements and what each statement does
with the environment. -/
structure Backend where
  Environment : Type
  Statement : Type
  initial : Environment
  statements : String → Except (List Diagnostic) (List Statement)
  reduce : Environment → Statement → Process Environment Outcome
  prompt : Environment → String
  bindings : Environment → List Binding

end ScriptSession
