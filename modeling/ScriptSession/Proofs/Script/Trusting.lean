import ScriptSession.Proofs.Script.Entering

/-!
# Evaluations believe what they are told

An evaluation of the command language ends as cancelled only if the reply to one of its calls told it
so, and it never asks for the number of its token (`run_trusts`).
-/
namespace ScriptSession

/-- The reply does not tell that the evaluation is cancelled. -/
def Call.calm : (request : Call) → request.Reply → Bool
  | .aborted, reply => !reply
  | .readLine _, reply => reply.isSome
  | .sleep _, reply => reply
  | .emit _, _ | .warn _ _, _ | .generation, _ | .consoleDepth, _ => true

/-- The process ends as `cut` only if it is told so, which it may have been before. It does not ask for
the number of its token. -/
def Process.Trusts {σ α : Type} (cut : α) : Bool → Process σ α → Prop
  | calm, .done _ a => calm = true → a ≠ cut
  | calm, .call _ request resume =>
    request ≠ .generation ∧ ∀ reply, Trusts cut (calm && request.calm reply) (resume reply)

/-- Who has been told may end in any way. -/
theorem Process.trusts_told {σ α : Type} {cut : α} {calm : Bool} (s : σ) (a : α) :
    (Process.done s a).Trusts cut (calm && false) := by
  simp [Trusts]

theorem Process.Trusts.bind {σ α β : Type} {cut : α} {cut' : β} {p : Process σ α}
    {next : σ → α → Process σ β} {calm : Bool} (h : p.Trusts cut calm)
    (goes : ∀ s a calm, (calm = true → a ≠ cut) → (next s a).Trusts cut' calm) :
    (p.bind next).Trusts cut' calm := by
  induction p generalizing calm with
  | done s a => exact goes s a calm h
  | call s request resume ih => exact ⟨h.1, fun reply => ih reply (h.2 reply)⟩

namespace Script

open Evaluates

/-- An evaluation that believes what it is told, also if that was before. -/
abbrev Trusting : Evaluates.Property := fun _ p => ∀ calm, p.Trusts (.error .cancelled) calm

theorem trusts_bind {α β : Type} {m : Evaluates α} {next : α → Evaluates β}
    (first : Has Trusting m) (rest : ∀ a, Has Trusting (next a)) : Has Trusting (m >>= next) := by
  intro env calm
  refine (first env calm).bind fun s result calm honest => ?_
  cases result with
  | ok a => exact rest a s calm
  | error stop =>
    intro still cut
    cases cut
    exact honest still rfl

theorem trusts_located {α : Type} {m : Evaluates α} (h : Has Trusting m) (span : Span) :
    Has Trusting (m.located span) := by
  intro env calm
  refine (h env calm).bind fun s result calm honest still cut => ?_
  match result with
  | .ok a => cases cut
  | .error .cancelled => exact honest still rfl
  | .error .exit => cases cut
  | .error (.failure message none) => cases cut
  | .error (.failure message (some range)) => cases cut

theorem trusts_between {α : Type} {m : Evaluates α} {enter leave : Environment → Environment}
    (h : Has Trusting m) : Has Trusting (m.between enter leave) :=
  fun env calm => (h (enter env) calm).bind fun _ _ _ honest => honest

theorem closed_trusting : Evaluates.Closed (Evaluates.first Trusting) where
  pure _ _ _ _ := nofun
  bind := trusts_bind
  failure _ _ _ _ _ := nofun
  get _ _ _ := nofun
  count _ _ _ _ := nofun
  define _ _ _ _ _ _ := nofun
  warn _ _ _ _ := ⟨nofun, fun _ _ => nofun⟩
  checkAborted _ calm := by
    refine ⟨nofun, fun aborted => ?_⟩
    cases aborted with
    | true => exact Process.trusts_told _ _
    | false => exact fun _ => nofun
  located span h := trusts_located h span
  nested h := trusts_between h

/-! ## Calls -/

theorem trusts_call (b : Builtin) (args : List Value) : Has Trusting (b.call args) := by
  have value : ∀ {α : Type} (found : Except String α), Has Trusting (ofExcept found) :=
    closed_trusting.ofExcept
  cases b with
  | print | log | info | warn | error => exact fun _ _ => ⟨nofun, fun _ _ => nofun⟩
  | readline =>
    refine trusts_bind (value _) fun _ env calm => ⟨nofun, fun line => ?_⟩
    cases line with
    | some text => exact fun _ => nofun
    | none => exact Process.trusts_told _ _
  | sleep =>
    refine trusts_bind (value _) fun _ env calm => ⟨nofun, fun passed => ?_⟩
    cases passed with
    | true => exact fun _ => nofun
    | false => exact Process.trusts_told _ _
  | fail | exit => exact trusts_bind (value _) fun _ _ _ _ => nofun
  | _ =>
    simp only [Builtin.call]
    exact value _

theorem calls_trust : CallsRelate (Evaluates.first Trusting) none none := by
  intro eval eval' parts callee args span
  refine closed_trusting.bind closed_trusting.checkAborted fun _ => ?_
  cases callee with
  | builtin b => exact trusts_located (trusts_call b args) span
  | procedure closure =>
    refine closed_applyClosure closed_trusting parts ?_ closure args span
    exact fun _ _ _ h => trusts_between h
  | int | str | bool | nil => exact closed_trusting.failure _ _

/-! ## Statements -/

theorem reduce_trusts (env : Environment) (s : Statement) (calm : Bool) :
    (reduce env s).Trusts .cancelled calm := by
  rw [← reduceAnnouncing_none]
  refine (closed_evalStatement closed_trusting calls_trust env.atTopLevel s calm).bind ?_
  intro env result calm honest still cut
  match result with
  | .ok .nil | .ok (.int _) | .ok (.str _) | .ok (.bool _) | .ok (.procedure _) | .ok (.builtin _)
  | .error .exit | .error (.failure _ _) => cases cut
  | .error .cancelled => exact honest still rfl

theorem run_trusts (default : String) (statements : List Statement) (env : Environment)
    (calm : Bool) : ((language default).run statements env).Trusts .cancelled calm := by
  induction statements generalizing env calm with
  | nil => exact fun _ => nofun
  | cons s rest ih =>
    refine ⟨nofun, fun aborted => ?_⟩
    cases aborted with
    | true => exact Process.trusts_told _ _
    | false =>
      refine (reduce_trusts env s _).bind fun env outcome calm honest => ?_
      cases outcome with
      | value text => exact ⟨nofun, fun _ => ih env _⟩
      | unit => exact ih env _
      | cancelled => exact fun still => absurd rfl (honest still)
      | exit | failed | crashed => exact fun _ => nofun

end Script

end ScriptSession
