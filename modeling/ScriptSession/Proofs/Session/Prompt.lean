import ScriptSession.Proofs.Script.Depth
import ScriptSession.Proofs.Session.Operations

/-!
# The prompt between operations

The prompt is looked up like any name, so a call that is still active may bind it. No call is active
after an evaluation that ended; but one that was given up leaves the frames of its calls behind until
the next statement starts (`Session.leftInside`), and then the prompt may come from the innermost of
them (`prompt_between_operations`, `prompt_from_abandoned_call`).
-/
namespace ScriptSession

/-! ## Runs that end -/

namespace Underway

variable {σ : Type} {S : σ → Prop} {u v : Underway σ}

/-- If the evaluation ends, it ends in such a state. -/
def EndsIn (S : σ → Prop) : Underway σ → Prop
  | running process _ => process.EndsIn S
  | asking _ resume _ _ => ∀ line, (resume line).EndsIn S
  | pausing _ resume _ _ => ∀ passed, (resume passed).EndsIn S

theorem EndsIn.step (h : u.EndsIn S) (step : Step u v) : v.EndsIn S := by
  cases step with
  | serve => exact h _
  | ask | pause | askingMeanwhile | pausingMeanwhile => exact h
  | settled | elapsed | cut => exact h _

theorem EndsIn.reaches (h : u.EndsIn S) (run : Reaches u v) : v.EndsIn S := by
  induction run with
  | refl => exact h
  | tail _ step ih => exact ih.step step

theorem EndsIn.finished (h : u.EndsIn S) {s : σ} {finish : Finish} {live : Live}
    (ends : u.Ends (.finished s finish) live) : S s := by
  cases ends with
  | finished => exact h

end Underway

namespace Script

/-- The prompt that a binding of its name gives. -/
def promptOf (default : String) : Option Value → String
  | some (.str text) => text
  | _ => default

/-- The prompt that is bound globally. -/
def Environment.globalPrompt (default : String) (env : Environment) : String :=
  promptOf default (env.globals.get? "prompt")

/-- What the innermost active call binds the name of the prompt to. -/
def Environment.innerPrompt? (env : Environment) : Option Value :=
  env.frames.head?.bind (·.get? "prompt")

theorem prompt_eq (default : String) (env : Environment) :
    prompt default env = promptOf default (env.innerPrompt?.or (env.globals.get? "prompt")) := by
  unfold prompt Environment.lookup? Environment.innerPrompt?
  cases env.frames <;> rfl

/-- Either the prompt is the global one, or a call hides that. -/
theorem prompt_cases (default : String) (env : Environment) :
    prompt default env = env.globalPrompt default ∨
    ∃ value, env.innerPrompt? = some value ∧ prompt default env = promptOf default (some value) := by
  rw [prompt_eq]
  cases env.innerPrompt? with
  | none => exact .inl rfl
  | some value => exact .inr ⟨value, rfl, rfl⟩

theorem prompt_atTop {default : String} {env : Environment} (top : env.AtTop) :
    prompt default env = env.globalPrompt default := by
  have none : env.innerPrompt? = none := by
    rw [Environment.innerPrompt?, show env.frames = [] from top]
    rfl
  rw [prompt_eq, none]
  rfl

/-- Whether a text has a statement that can run. -/
def hasStatement (text : String) : Bool :=
  match statements text with
  | .ok (_ :: _) => true
  | _ => false

end Script

namespace Session

open Script (language)

variable {default : String} {s after : Session (language default)}

/-- Whether an operation runs a statement. -/
def ran (s : Session (language default)) (op : Operation) : Bool :=
  (s.admitted? op).any Script.hasStatement

/-- The last evaluation that ran a statement was given up, and there was no reset after it. -/
def leftInside (past : List (Session (language default) × Operation)) : Bool :=
  match past.reverse.find? fun entry => entry.1.ran entry.2 || entry.2.isReset with
  | some (s, op) => !op.isReset && (s.given op).isNone
  | none => false

/-- Statements that run to their end leave no call active, wherever they started. -/
theorem play_run_atTop {ω : Type} {policy : Policy ω} (fair : policy.Fair) {start live : Live}
    {outer : List Nat} {kept : List Fragment} (steady : start.Steady outer kept none)
    (alive : start.isAborted = false) {w w' : ω} (statement : Script.Statement)
    (others : List Script.Statement) {env env' : Script.Environment} {finish : Finish}
    (played : ((language default).run (statement :: others) env).play policy start w =
      (.finished env' finish, live, w')) : env'.AtTop := by
  obtain ⟨resume, eq, -, goes⟩ := Script.run_cons (Script.run_ends default others) statement env
  -- The token is alive when the evaluation starts, so its first statement starts.
  have served : start.serve .aborted = some (false, start) := by rw [Live.serve, alive]
  have first := (play_serve served w).symm.trans
    ((congrArg (Process.play policy · start w) eq).symm.trans played)
  obtain ⟨u, run, ends⟩ := play_ends fair (resume false) steady w
  rw [first] at ends
  have inside : (Underway.running (resume false) start).EndsIn Script.Environment.AtTop := goes
  exact (inside.reaches run).finished ends

/-- An evaluation that ran a statement and ended leaves no call active; one that ran nothing changes
no binding. -/
theorem Evaluates.atTop {ω : Type} {policy : Policy ω} {w : ω} {channel : Option Channel}
    {text : String} {result : Option (Except SessionError Evaluation)}
    (h : s.Evaluates policy w channel text result after) (fair : policy.Fair) (rest : s.AtRest)
    (running : s.state ≠ .exited) :
    if Script.hasStatement text then result.isSome → Script.Environment.AtTop after.environment
    else after.environment = s.environment := by
  cases h with
  | refused terminated => exact absurd terminated running
  | rejected _ parsed =>
    have none : Script.hasStatement text = false := by
      have parsed : Script.statements text = _ := parsed
      rw [Script.hasStatement, parsed]
    rw [none]
    rfl
  | @launched statements ending live w' _ parsed played =>
    have parsed : Script.statements text = .ok statements := parsed
    rw [settle_session]
    unfold Script.hasStatement
    rw [parsed]
    cases statements with
    | nil =>
      cases played
      rfl
    | cons statement others =>
      intro ended
      cases ending with
      | finished env finish =>
        exact play_run_atTop fair (launch_steady rest channel _) rest.desk.alive.isAborted_eq
          statement others played
      | givenUp env => cases ended

theorem Performs.atTop {op : Operation} {result : Option (Except SessionError Evaluation)}
    (h : s.Performs op result after) (rest : s.AtRest) :
    if op.isReset then Script.Environment.AtTop after.environment
    else if s.ran op then result.isSome → Script.Environment.AtTop after.environment
    else after.environment = s.environment := by
  cases h with
  | @evaluate text _ around _ _ evaluates =>
    by_cases terminated : s.state = .exited
    · cases evaluates with
      | refused => simp [ran, admitted?, terminated, Operation.isReset]
      | rejected running | launched running => exact absurd terminated running
    · have left := evaluates.atTop around.fair rest terminated
      simpa [ran, admitted?, terminated, Operation.isReset] using left
  | refused terminated | unassembled terminated => simp [ran, admitted?, terminated, Operation.isReset]
  | continued running continued =>
    simp [ran, admitted?, running, continued, gathered, Operation.isReset]
  | @completed line around statement _ _ running complete evaluates =>
    have left := evaluates.atTop around.fair (gathered_atRest rest line) (gathered_running complete)
    simpa [ran, admitted?, running, complete, gathered, Operation.isReset] using left
  | assembled running => simp [ran, admitted?, running, gathered, Operation.isReset]
  | interrupt | interruptEvaluation | answer =>
    simp [ran, admitted?, Operation.isReset, Session.interrupt, Session.interruptEvaluation,
      Session.answer]
  | reset => exact rfl

theorem atTop_after (continuationPrompt : String) (ops : List Operation)
    (left : leftInside ((fresh (language default) continuationPrompt).past ops) = false) :
    Script.Environment.AtTop ((fresh (language default) continuationPrompt).after ops).environment := by
  -- An operation needs a session at rest to start from, so that is carried along.
  refine (after_induction (s := fresh (language default) continuationPrompt) (P := fun past s =>
    s.AtRest ∧ (leftInside past = false → Script.Environment.AtTop s.environment)) ?_ ?_ ops).2 left
  · exact ⟨fresh_atRest continuationPrompt, fun _ => rfl⟩
  · rintro past s op ⟨rest, top⟩
    refine ⟨(s.performs op).atRest rest, fun left => ?_⟩
    have performed := (s.performs op).atTop rest
    cases reset : op.isReset with
    | true => simpa [reset] using performed
    | false =>
      cases runs : s.ran op with
      | true =>
        simp only [reset, runs, Bool.false_eq_true, if_false, if_true] at performed
        exact performed (by simpa [leftInside, runs, reset] using left)
      | false =>
        simp only [reset, runs, Bool.false_eq_true, if_false] at performed
        rw [performed]
        exact top (by simpa [leftInside, runs, reset] using left)

/-- The prompt is the one that is bound globally, unless the last evaluation that ran a statement was
given up, and that inside a call which binds the name itself: then its binding gives the prompt. -/
theorem prompt_between_operations (default continuationPrompt : String) (ops : List Operation) :
    let past := (fresh (language default) continuationPrompt).past ops
    let s := (fresh (language default) continuationPrompt).after ops
    s.prompt = Script.Environment.globalPrompt default s.environment ∨
      leftInside past = true ∧ ∃ value, Script.Environment.innerPrompt? s.environment = some value ∧
        s.prompt = Script.promptOf default (some value) := by
  intro past s
  cases left : leftInside past with
  | false => exact .inl (Script.prompt_atTop (atTop_after continuationPrompt ops left))
  | true => exact (Script.prompt_cases default s.environment).imp_right fun binds => ⟨rfl, binds⟩

/-- The parameter of a call that is given up while it asks for a line is the prompt after that. -/
theorem prompt_from_abandoned_call :
    let s := (fresh (language "> ") "..").after [.evaluate
      "set f (fun prompt (readline)); f \"x\"" none (.scheduled [{ actions := [.abandon] }])]
    s.prompt = "x" ∧ Script.Environment.globalPrompt "> " s.environment = "> " := by
  decide +kernel

end Session

end ScriptSession
