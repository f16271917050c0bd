import ScriptSession.Proofs.Script.Entering
import ScriptSession.Session.Running

/-!
# Calls that end leave no frame

However a call ends, its frame is gone then (`calls_keep_depth`). So a statement that ends is at the
top level again, whatever its value, failure or cancellation (`reduce_ends`), and so are statements one
after another, wherever the first of them starts (`run_cons`, `run_ends`). Nothing is said of an
evaluation that is given up.
-/
namespace ScriptSession

/-- Every state that the process may end with is of this kind. -/
def Process.EndsIn {σ α : Type} (S : σ → Prop) : Process σ α → Prop
  | .done s _ => S s
  | .call _ _ resume => ∀ reply, EndsIn S (resume reply)

theorem Process.EndsIn.bind {σ α β : Type} {S T : σ → Prop} {p : Process σ α}
    {next : σ → α → Process σ β} (h : p.EndsIn S) (goes : ∀ s a, S s → (next s a).EndsIn T) :
    (p.bind next).EndsIn T := by
  induction p with
  | done s a => exact goes s a h
  | call s request resume ih => exact fun reply => ih reply (h reply)

namespace Script

open Evaluates

/-- As many calls are active at the end as before. -/
abbrev KeepsDepth : Evaluates.Property := fun env p => p.EndsIn fun env' => env'.depth = env.depth

theorem depth_define (env : Environment) (name : String) (value : Value) :
    (env.define name value).depth = env.depth := by
  unfold Environment.define Environment.depth
  split
  · rfl
  · rename_i frame outer frames
    simp [frames]

theorem keepsDepth_bind {α β : Type} {m : Evaluates α} {next : α → Evaluates β}
    (first : Has KeepsDepth m) (rest : ∀ a, Has KeepsDepth (next a)) :
    Has KeepsDepth (m >>= next) := by
  intro env
  refine (first env).bind fun s result same => ?_
  cases result with
  | error stop => exact same
  | ok a =>
    have later : (next a s).EndsIn fun env' => env'.depth = s.depth := rest a s
    rwa [same] at later

theorem keepsDepth_located {α : Type} {m : Evaluates α} (h : Has KeepsDepth m) (span : Span) :
    Has KeepsDepth (m.located span) :=
  fun env => (h env).bind fun _ _ same => same

theorem closed_keepsDepth : Evaluates.Closed (Evaluates.first KeepsDepth) where
  pure _ _ := rfl
  bind := keepsDepth_bind
  failure _ _ _ := rfl
  get _ := rfl
  count _ _ := rfl
  define name value _ env := depth_define env name value
  warn _ _ _ _ := rfl
  checkAborted _ aborted := by cases aborted <;> exact rfl
  located span h := keepsDepth_located h span
  nested h env := (h { env with nesting := env.nesting + 1 }).bind fun _ _ same => same

theorem keepsDepth_inFrame {α : Type} {m : Evaluates α} (h : Has KeepsDepth m) (frame : Bindings) :
    Has KeepsDepth (m.inFrame frame) := by
  intro env
  refine (h { env with frames := frame :: env.frames }).bind fun s result same => ?_
  change s.frames.tail.length = env.frames.length
  have same : s.frames.length = env.frames.length + 1 := same
  rw [List.length_tail, same, Nat.add_sub_cancel]

theorem keepsDepth_call (b : Builtin) (args : List Value) : Has KeepsDepth (b.call args) := by
  have value : ∀ {α : Type} (found : Except String α), Has KeepsDepth (ofExcept found) :=
    closed_keepsDepth.ofExcept
  cases b with
  | print | log | info | warn | error => exact fun _ _ => rfl
  | readline =>
    refine keepsDepth_bind (value _) fun _ env line => ?_
    cases line <;> exact rfl
  | sleep =>
    refine keepsDepth_bind (value _) fun _ env passed => ?_
    cases passed <;> exact rfl
  | fail | exit => exact keepsDepth_bind (value _) fun _ _ => rfl
  | _ =>
    simp only [Builtin.call]
    exact value _

theorem calls_keep_depth (note : Option String) :
    CallsRelate (Evaluates.first KeepsDepth) note note := by
  intro eval eval' parts callee args span
  refine closed_keepsDepth.bind closed_keepsDepth.checkAborted fun _ => ?_
  have announced : Has KeepsDepth (announce note) := by
    cases note with
    | none => exact closed_keepsDepth.pure ()
    | some text => exact fun _ _ => rfl
  cases callee with
  | builtin b =>
    exact keepsDepth_located (keepsDepth_bind announced fun _ => keepsDepth_call b args) span
  | procedure closure =>
    have entered : ∀ e, Has KeepsDepth (do announce note; eval e) := fun e =>
      keepsDepth_bind announced fun _ => parts e
    refine closed_applyClosure closed_keepsDepth entered ?_ closure args span
    intro frame m m' h
    exact keepsDepth_inFrame h frame
  | int | str | bool | nil => exact closed_keepsDepth.failure _ _

/-! ## Statements -/

/-- No call is active. -/
def Environment.AtTop (env : Environment) : Prop := env.frames = []

theorem reduce_ends (env : Environment) (s : Statement) :
    (reduce env s).EndsIn Environment.AtTop := by
  rw [← reduceAnnouncing_none]
  refine (closed_evalStatement closed_keepsDepth (calls_keep_depth none) env.atTopLevel s).bind ?_
  intro env' result same
  exact List.length_eq_zero_iff.mp same

/-- The first statement starts unless the evaluation is cancelled by then. -/
theorem run_cons {default : String} {rest : List Statement}
    (later : ∀ env : Environment, env.AtTop →
      ((language default).run rest env).EndsIn Environment.AtTop)
    (s : Statement) (env : Environment) : ∃ resume,
      (language default).run (s :: rest) env = .call env .aborted resume ∧
      resume true = .done env .cancelled ∧ (resume false).EndsIn Environment.AtTop := by
  refine ⟨_, rfl, rfl, (reduce_ends env s).bind fun env' outcome top => ?_⟩
  cases outcome with
  | value text => exact fun _ => later env' top
  | unit => exact later env' top
  | _ => exact top

theorem run_ends (default : String) (statements : List Statement) (env : Environment)
    (top : env.AtTop) : ((language default).run statements env).EndsIn Environment.AtTop := by
  induction statements generalizing env with
  | nil => exact top
  | cons s rest ih =>
    obtain ⟨resume, eq, cancelled, goes⟩ := run_cons ih s env
    refine (congrArg (Process.EndsIn Environment.AtTop) eq).mpr fun aborted => ?_
    cases aborted with
    | true => rwa [cancelled]
    | false => exact goes

end Script

end ScriptSession
