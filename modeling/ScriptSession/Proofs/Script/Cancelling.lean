import ScriptSession.Proofs.Script.Entering
import ScriptSession.Session.Running

/-!
# Evaluations heed their cancellation

Once it is cancelled an evaluation writes no message, asks for no line and does not pause; and a line
or a pause that the cancellation comes before ends it at once, with the globals as they were
(`Process.Heeds`). Every call is guarded by the question whether the evaluation is cancelled, so this
holds of the command language (`run_heeds`), also if it announces what it enters.
-/
namespace ScriptSession

/-- The process keeps quiet once it is cancelled, which it may be already. If it is while it waits,
it ends there as `cut`, with a state that is the `same`. -/
def Process.Heeds {σ α : Type} (cut : α) (same : σ → σ → Prop) : Bool → Process σ α → Prop
  | _, .done _ _ => True
  | cancelled, .call s request resume =>
    match request, resume with
    | .emit f, resume =>
      (cancelled = true → f.isResult = true) ∧ Heeds cut same cancelled (resume ())
    | .warn _ _, resume => Heeds cut same cancelled (resume ())
    | .aborted, resume => Heeds cut same cancelled (resume cancelled)
    | .generation, resume => ∀ n, Heeds cut same cancelled (resume n)
    | .consoleDepth, resume => ∀ n, Heeds cut same cancelled (resume n)
    | .readLine _, resume => cancelled = false ∧ (∃ s', resume none = .done s' cut ∧ same s s') ∧
        ∀ text after, Heeds cut same after (resume (some text))
    | .sleep _, resume => cancelled = false ∧ (∃ s', resume false = .done s' cut ∧ same s s') ∧
        ∀ after, Heeds cut same after (resume true)

theorem Process.Heeds.bind {σ α β : Type} {cut : α} {cut' : β} {same : σ → σ → Prop}
    (trans : ∀ s t u, same s t → same t u → same s u) {p : Process σ α}
    {next : σ → α → Process σ β} {cancelled : Bool} (h : p.Heeds cut same cancelled)
    (ends : ∀ s, ∃ s', next s cut = .done s' cut' ∧ same s s')
    (goes : ∀ s a after, (cancelled = true → after = true) → (next s a).Heeds cut' same after) :
    (p.bind next).Heeds cut' same cancelled := by
  have unwinds : ∀ s s', same s s' → ∃ s'', next s' cut = .done s'' cut' ∧ same s s'' := by
    intro s s' kept
    obtain ⟨s'', ended, kept'⟩ := ends s'
    exact ⟨s'', ended, trans s s' s'' kept kept'⟩
  induction p generalizing cancelled with
  | done s a => exact goes s a cancelled fun now => now
  | call s request resume ih =>
    cases request with
    | emit f => exact ⟨h.1, ih () h.2 goes⟩
    | warn message range => exact ih () h goes
    | aborted => exact ih cancelled h goes
    | generation | consoleDepth => exact fun n => ih n (h n) goes
    | readLine prompt =>
      obtain ⟨alive, ⟨s', unwound, kept⟩, answered⟩ := h
      subst alive
      obtain ⟨s'', ended, kept'⟩ := unwinds s s' kept
      refine ⟨rfl, ⟨s'', (congrArg (·.bind next) unwound).trans ended, kept'⟩, fun text after => ?_⟩
      exact ih _ (answered text after) fun s a later _ => goes s a later nofun
    | sleep millis =>
      obtain ⟨alive, ⟨s', unwound, kept⟩, passed⟩ := h
      subst alive
      obtain ⟨s'', ended, kept'⟩ := unwinds s s' kept
      refine ⟨rfl, ⟨s'', (congrArg (·.bind next) unwound).trans ended, kept'⟩, fun after => ?_⟩
      exact ih _ (passed after) fun s a later _ => goes s a later nofun

namespace Script

open Evaluates

/-- The globals are the same. -/
def Environment.Keeps (env env' : Environment) : Prop := env'.globals = env.globals

theorem Environment.Keeps.trans (a b c : Environment) (first : a.Keeps b) (second : b.Keeps c) :
    a.Keeps c := Eq.trans second first

/-- An evaluation that heeds its cancellation from there on. -/
abbrev HeedsFrom (cancelled : Bool) : Evaluates.Property := fun _ p =>
  p.Heeds (.error .cancelled) Environment.Keeps cancelled

/-- An evaluation that heeds its cancellation, also if that came before. -/
abbrev Heeding : Evaluates.Property := fun _ p =>
  ∀ cancelled, p.Heeds (.error .cancelled) Environment.Keeps cancelled

theorem heeds_bind {α β : Type} {m : Evaluates α} {next : α → Evaluates β} {cancelled : Bool}
    (first : Has (HeedsFrom cancelled) m)
    (rest : ∀ a after, (cancelled = true → after = true) → Has (HeedsFrom after) (next a)) :
    Has (HeedsFrom cancelled) (m >>= next) := by
  intro env
  refine (first env).bind Environment.Keeps.trans (fun s => ⟨s, rfl, rfl⟩) ?_
  intro s result after later
  cases result with
  | ok a => exact rest a after later s
  | error stop => exact trivial

theorem heeds_located {α : Type} {m : Evaluates α} {cancelled : Bool}
    (h : Has (HeedsFrom cancelled) m) (span : Span) : Has (HeedsFrom cancelled) (m.located span) :=
  fun env => (h env).bind Environment.Keeps.trans (fun s => ⟨s, rfl, rfl⟩) fun _ _ _ _ => trivial

theorem heeds_between {α : Type} {m : Evaluates α} {cancelled : Bool}
    {enter leave : Environment → Environment} (h : Has (HeedsFrom cancelled) m)
    (leaving : ∀ env, (leave env).globals = env.globals) :
    Has (HeedsFrom cancelled) (m.between enter leave) :=
  fun env => (h (enter env)).bind Environment.Keeps.trans (fun s => ⟨leave s, rfl, leaving s⟩)
    fun _ _ _ _ => trivial

/-- Behind the question whether it is cancelled an evaluation is not cancelled. -/
theorem heeding_guarded {α : Type} {next : Unit → Evaluates α}
    (h : Has (HeedsFrom false) (next ())) : Has Heeding (checkAborted >>= next) := by
  intro env cancelled
  cases cancelled with
  | true => exact trivial
  | false => exact h env

theorem closed_heeding : Evaluates.Closed (Evaluates.first Heeding) where
  pure _ _ _ := trivial
  bind first rest env cancelled := heeds_bind (fun env => first env cancelled)
    (fun a after _ env => rest a env after) env
  failure _ _ _ _ := trivial
  get _ _ := trivial
  count _ _ _ := trivial
  define _ _ _ _ _ := trivial
  warn _ _ _ _ := trivial
  checkAborted := by
    intro env cancelled
    cases cancelled <;> exact trivial
  located span h env cancelled := heeds_located (fun env => h env cancelled) span env
  nested h := by
    intro env cancelled
    refine heeds_between (fun env => h env cancelled) ?_ env
    exact fun _ => rfl

/-! ## Calls -/

theorem heeds_emit (level : Level) (args : List Value) :
    Has (HeedsFrom false) (Builtin.emit level args) := fun _ => ⟨nofun, trivial⟩

theorem heeds_ofExcept {α β : Type} (found : Except String α) {next : α → Evaluates β}
    (rest : ∀ a, Has (HeedsFrom false) (next a)) :
    Has (HeedsFrom false) (ofExcept found >>= next) := by
  cases found with
  | ok a => exact rest a
  | error message => exact fun _ => trivial

/-- A builtin that asks or pauses ends at once if the evaluation is cancelled meanwhile. -/
theorem heeds_call (b : Builtin) (args : List Value) : Has (HeedsFrom false) (b.call args) := by
  cases b with
  | print | log | info | warn | error => exact heeds_emit _ args
  | readline =>
    refine heeds_ofExcept _ fun _ env => ⟨rfl, ⟨env, rfl, rfl⟩, fun text after => trivial⟩
  | sleep =>
    exact heeds_ofExcept _ fun millis env => ⟨rfl, ⟨env, rfl, rfl⟩, fun after => trivial⟩
  | fail | exit => exact heeds_ofExcept _ fun _ _ => trivial
  | _ =>
    simp only [Builtin.call]
    exact fun env => closed_heeding.ofExcept _ env false

theorem heeds_applyClosure {eval : Expr → Evaluates Value}
    (parts : ∀ e, Has (HeedsFrom false) (eval e)) (closure : Closure) (args : List Value)
    (span : Span) : Has (HeedsFrom false) (applyClosure eval closure args span) := by
  unfold applyClosure
  dsimp only
  split
  · exact fun _ => trivial
  · intro env
    change Process.Heeds _ _ _ ((if env.depth ≥ maxCallDepth then failAt _ span else
      inFrame (closure.params.zip args) (eval closure.body)) env)
    split
    · exact trivial
    · refine heeds_between (parts closure.body) ?_ env
      exact fun _ => rfl

theorem calls_heed (note : Option String) : CallsRelate (Evaluates.first Heeding) note note := by
  intro eval _ parts callee args span
  refine heeding_guarded ?_
  have entering : ∀ {α : Type} {m : Evaluates α}, Has (HeedsFrom false) m →
      Has (HeedsFrom false) (do announce note; m) := by
    intro α m h
    cases note with
    | none => exact h
    | some text => exact fun env => ⟨nofun, h env⟩
  cases callee with
  | builtin b => exact heeds_located (entering (heeds_call b args)) span
  | procedure closure =>
    exact heeds_applyClosure (fun e => entering fun env => parts e env false) closure args span
  | int | str | bool | nil => exact fun _ => trivial

/-! ## Statements -/

theorem reduce_heeds (note : Option String) (env : Environment) (s : Statement) (cancelled : Bool) :
    (reduceAnnouncing note env s).Heeds .cancelled Environment.Keeps cancelled :=
  (closed_evalStatement closed_heeding (calls_heed note) env.atTopLevel s cancelled).bind
    Environment.Keeps.trans (fun s => ⟨s, rfl, rfl⟩) fun _ _ _ _ => trivial

/-- No statement starts after the evaluation is cancelled, and none goes on. -/
theorem run_heeds (note : Option String) (default : String) (statements : List Statement)
    (env : Environment) (cancelled : Bool) :
    ((announcing note default).run statements env).Heeds .cancelled Environment.Keeps cancelled := by
  induction statements generalizing env cancelled with
  | nil => exact trivial
  | cons s rest ih =>
    cases cancelled with
    | true => exact trivial
    | false =>
      refine (reduce_heeds note env s false).bind Environment.Keeps.trans (fun s => ⟨s, rfl, rfl⟩) ?_
      intro env outcome after _
      cases outcome with
      | value text => exact ⟨fun _ => rfl, ih env after⟩
      | unit => exact ih env after
      | _ => exact trivial

end Script

end ScriptSession
