import ScriptSession.Proofs.Script.Parts

/-!
# Reduction does not look at places

Statements that are alike reduce alike from environments that are alike (`reduce_like`): places are
handed on into diagnostics and into the bodies of procedures, and nothing is decided by them.
-/
namespace ScriptSession

theorem Process.Agrees.like {σ τ α β : Type} {R : Span → Span → Prop} {S : σ → τ → Prop}
    {A : α → β → Prop} {p : Process σ α} {q : Process τ β}
    (h : Process.Agrees R S (fun s t a b => S s t ∧ A a b) p q) : Process.Like R S A p q := by
  induction h with
  | done ends => exact .done ends.1 ends.2
  | warn states ranges _ ih => exact .warn states ranges ih
  | call states _ ih => exact .call states ih

namespace Script

variable {R : Span → Span → Prop}

/-- Nothing but places may differ. -/
def View.upTo (R : Span → Span → Prop) : View where
  places := R
  numbers := Eq
  calls := Environment.Like R
  oneToOne := eq_oneToOne

theorem alike_upTo : Value.Alike (View.upTo R) = Value.Like R := by
  funext v w
  apply propext
  constructor
  · intro h
    cases h with
    | procedure numbers bodies =>
      cases numbers
      exact .procedure bodies
    | _ => constructor
  · intro h
    cases h with
    | procedure bodies => exact .procedure rfl bodies
    | _ => constructor

theorem keeps_upTo : (View.upTo R).Keeps (Environment.Like R) where
  calls envs := envs
  depth envs := envs.depth_eq
  lookup? envs name := alike_upTo ▸ envs.lookup? name
  define envs name _ _ values := envs.define name (alike_upTo ▸ values)
  number envs := envs.nextClosure
  count envs := ⟨envs.globals, envs.frames, envs.nesting, congrArg (· + 1) envs.nextClosure⟩

/-- The nesting and the active calls are the same on all levels. -/
theorem layers_upTo (most : Nat) : (View.upTo R).Layers (fun _ _ => Environment.Like R) most where
  keeps _ := keeps_upTo
  nest envs := ⟨envs.globals, envs.frames, congrArg (· + 1) envs.nesting, envs.nextClosure⟩
  unnest envs := ⟨envs.globals, envs.frames, congrArg (· - 1) envs.nesting, envs.nextClosure⟩
  enter envs _ frames := by
    rw [alike_upTo] at frames
    exact ⟨envs.globals, .cons frames envs.frames, envs.nesting, envs.nextClosure⟩
  leave envs := ⟨envs.globals, tail_rel envs.frames, envs.nesting, envs.nextClosure⟩

/-! ## Statements -/

theorem Value.Alike.isCallable_eq {V : View} {v w : Value} (h : v.Alike V w) :
    v.isCallable = w.isCallable := by
  cases h <;> rfl

section

variable {V : View} {S : Correspondence} {env env' : Environment} {s s' : Statement}

/-- A statement of one word calls corresponding values, or evaluates its word. -/
theorem bareCallee?_rel (keeps : V.Keeps S) (envs : S env env') (h : s.Like V.places s') :
    Option.Rel (Value.Alike V) (bareCallee? env s) (bareCallee? env' s') := by
  unfold bareCallee? Statement.bareWord?
  rw [h.word?_eq]
  cases s'.expr.word? with
  | none => exact .none
  | some name =>
    simp only [Option.bind_eq_bind, Option.bind_some]
    rcases resolve?_rel (keeps.lookup? envs name) .builtin with
      ⟨v, w, found, found', values⟩ | ⟨message, missing, missing'⟩
    · rw [found, found']
      simp only [Except.toOption, Option.bind_some, values.isCallable_eq]
      split
      · exact .some values
      · exact .none
    · rw [missing, missing']
      exact .none

/-- Statements reduce alike from environments that correspond at the top level, if the correspondence
is the same one on all levels. -/
theorem reduce_agrees {F : Environment → Environment → Outcome → Outcome → Prop}
    (layers : V.Layers (fun _ _ => S) maxEvalDepth)
    (nesting : ∀ {env env'}, S env env' → env.nesting = env'.nesting) (h : s.Like V.places s')
    (tops : S env.atTopLevel env'.atTopLevel)
    (ends : ∀ {env env' result result'}, S env env' →
      ResultLike V.places (Value.Alike V) result result' →
      F env env' (Outcome.ofResult s.expr.span result) (Outcome.ofResult s'.expr.span result')) :
    Process.Agrees V.places V.calls F (reduce env s) (reduce env' s') := by
  have keeps : V.Keeps S := layers.keeps (n := 0) (k := 0) (Nat.zero_le _)
  have evals : ∀ e e', e.Like V.places e' →
      Evaluates.Agrees V S (Value.Alike V) (eval e) (eval e') := by
    intro e e' like
    refine eval_agrees (n := 0) layers 0 (fun env _ envs => ⟨nesting envs, ?_⟩) like
    omega
  have enters : Enters V S eval eval := layers.enters (n := 0) (k := 0) evals
  have callees := bareCallee?_rel keeps tops h
  unfold reduce
  refine Process.Agrees.bind (E := fun env env' result result' =>
    S env env' ∧ ResultLike V.places (Value.Alike V) result result') ?_ fun _ _ _ _ last =>
      .done (ends last.1 last.2)
  generalize bareCallee? env.atTopLevel s = callee at callees ⊢
  generalize bareCallee? env'.atTopLevel s' = callee' at callees ⊢
  cases callees with
  | some callee => exact apply_agrees keeps.toShows enters callee .nil h.span _ _ tops
  | none => exact evals _ _ h _ _ tops

end

theorem ofResult_like {s s' : Span} (spans : R s s') {result result' : Except Stop Value}
    (h : ResultLike R (Value.Like R) result result') :
    Outcome.Like R (Outcome.ofResult s result) (Outcome.ofResult s' result') := by
  cases h with
  | ok values =>
    cases values with
    | nil => exact .unit
    | int | str | bool | builtin | procedure => exact .value
  | error stops =>
    cases stops with
    | exit => exact .exit
    | cancelled => exact .cancelled
    | failure ranges =>
      cases ranges with
      | none => exact .failed (.some spans)
      | some inner => exact .failed (.some inner)

theorem reduce_like {env env' : Environment} (envs : env.Like R env') {s s' : Statement}
    (h : s.Like R s') :
    Process.Like R (Environment.Like R) (Outcome.Like R) (reduce env s) (reduce env' s') := by
  refine (reduce_agrees (layers_upTo maxEvalDepth) (·.nesting) h envs.atTopLevel ?_).like
  intro env env' result result' states results
  rw [alike_upTo] at results
  exact ⟨states, ofResult_like h.span results⟩

theorem run_like (default : String) {statements statements' : List Statement}
    (h : List.Forall₂ (Statement.Like R) statements statements') {env env' : Environment}
    (envs : env.Like R env') :
    Process.Like R (Environment.Like R) (Finish.Like R) ((language default).run statements env)
      ((language default).run statements' env') := by
  induction h generalizing env env' with
  | nil => exact .done envs .completed
  | cons first _ ih =>
    apply Process.Like.call envs
    intro aborted
    by_cases stop : aborted = true
    · rw [if_pos stop, if_pos stop]
      exact .done envs .cancelled
    · rw [if_neg stop, if_neg stop]
      apply (reduce_like envs first).bind
      intro env env' outcome outcome' envs outcomes
      cases outcomes with
      | value => exact .call envs fun _ => ih envs
      | unit => exact ih envs
      | exit => exact .done envs .exited
      | failed ranges => exact .done envs (.failed ranges)
      | cancelled => exact .done envs .cancelled

end Script

end ScriptSession
