import ScriptSession.Proofs.Script.Calls
import ScriptSession.Proofs.Script.Parametric

/-!
# Numbers of procedures do not matter

The numbers of procedures only tell one from another. Statements do the same from globals in which
procedures have other numbers, as long as these correspond one to one (`run_renumbered`), and what is
left of an earlier evaluation besides the globals makes no difference at all (`run_congr`).

Which numbers correspond changes from statement to statement, since a number may be given again once
nobody has it any more: those known at the start of a statement do, and those that follow
(`View.onward`).
-/
namespace ScriptSession.Script

open Evaluates

/-- Nothing differs but the numbers of procedures, which correspond one to one. -/
def Bindings.Renumbered (b b' : Bindings) : Prop :=
  ∃ V : View, V.places = Eq ∧ b.Rel (Value.Alike V) b'

/-- The numbers below `n` and `n'` correspond as before, and those given from there on do in their
order. -/
def View.onward (V : View) (n n' : Nat) : View where
  places := Eq
  numbers i j := V.numbers i j ∧ i < n ∧ j < n' ∨ ∃ made, i = n + made ∧ j = n' + made
  calls s t := s.globals.Renumbered t.globals
  oneToOne := by
    rintro i i' j j' (⟨numbers, known, known'⟩ | ⟨made, left, right⟩)
      (⟨numbers', later, later'⟩ | ⟨made', left', right'⟩)
    · exact V.oneToOne numbers numbers'
    all_goals omega

variable {V : View} {n n' : Nat}

theorem Value.Alike.onward {v w : Value} (h : v.Alike V w) (places : V.places = Eq)
    (known : ∀ closure, v = .procedure closure → closure.id < n)
    (known' : ∀ closure, w = .procedure closure → closure.id < n') : v.Alike (V.onward n n') w := by
  cases h with
  | procedure numbers bodies =>
    rw [places] at bodies
    exact .procedure (.inl ⟨numbers, known _ rfl, known' _ rfl⟩) bodies
  | _ => constructor

/-- Numbers that are new to both sides tell nothing about those in the globals. -/
theorem Bindings.rel_onward {b b' : Bindings} (h : b.Rel (Value.Alike V) b') (places : V.places = Eq) :
    b.Rel (Value.Alike (V.onward b.freshId b'.freshId)) b' := by
  obtain ⟨length, entries⟩ := List.forall₂_iff_zip.mp h
  refine List.forall₂_iff_zip.mpr ⟨length, fun {x y} mem => ?_⟩
  obtain ⟨names, values⟩ := entries mem
  obtain ⟨left, right⟩ := List.of_mem_zip mem
  refine ⟨names, values.onward places ?_ ?_⟩
  · exact fun closure eq => lt_freshId (eq ▸ List.mem_map_of_mem left)
  · exact fun closure eq => lt_freshId (eq ▸ List.mem_map_of_mem right)

/-! ## Environments -/

/-- Environments that differ in numbers only, and have counted as many procedures from two others on. -/
structure Environment.Alike (V : View) (start start' env env' : Environment) : Prop where
  globals : env.globals.Rel (Value.Alike V) env'.globals
  frames : List.Forall₂ (Bindings.Rel (Value.Alike V)) env.frames env'.frames
  nesting : env.nesting = env'.nesting
  count : start.CountAlike start' env env'

variable {start start' env env' : Environment}

theorem Environment.Alike.define (h : Environment.Alike V start start' env env') (name : String)
    {v w : Value} (values : v.Alike V w) :
    Environment.Alike V start start' (env.define name v) (env'.define name w) := by
  obtain ⟨globals, frames, nesting, next⟩ := env
  obtain ⟨globals', frames', nesting', next'⟩ := env'
  obtain ⟨globalsAlike, framesAlike, nestingEq, count⟩ := h
  cases framesAlike with
  | nil => exact ⟨Bindings.Rel.set globalsAlike name values, .nil, nestingEq, count⟩
  | cons first rest =>
    exact ⟨globalsAlike, .cons (Bindings.Rel.set first name values) rest, nestingEq, count⟩

/-- What corresponds from there on. -/
abbrev View.since (V : View) (start start' : Environment) : View :=
  V.onward start.nextClosure start'.nextClosure

theorem keeps_since :
    (V.since start start').Keeps (Environment.Alike (V.since start start') start start') where
  calls envs := ⟨V.since start start', rfl, envs.globals⟩
  depth envs := envs.frames.length_eq
  lookup? envs name := lookup?_rel envs.globals (head?_rel envs.frames) name
  define envs name _ _ values := envs.define name values
  number envs := .inr envs.count
  count envs := ⟨envs.globals, envs.frames, envs.nesting, envs.count.next⟩

theorem layers_since (most : Nat) : (V.since start start').Layers
    (fun _ _ => Environment.Alike (V.since start start') start start') most where
  keeps _ := keeps_since
  nest envs := ⟨envs.globals, envs.frames, congrArg (· + 1) envs.nesting, envs.count⟩
  unnest envs := ⟨envs.globals, envs.frames, congrArg (· - 1) envs.nesting, envs.count⟩
  enter envs _ frames := ⟨envs.globals, .cons frames envs.frames, envs.nesting, envs.count⟩
  leave envs := ⟨envs.globals, tail_rel envs.frames, envs.nesting, envs.count⟩

/-! ## Statements -/

/-- The same calls and the same end, between globals of this kind. -/
abbrev SameWith (G : Bindings → Bindings → Prop) {α : Type} :
    Process Environment α → Process Environment α → Prop :=
  Process.Agrees Eq (fun s t => G s.globals t.globals) fun s t a b => G s.globals t.globals ∧ a = b

/-- What a value is shown as does not tell its number. -/
theorem ofResult_eq (span : Span) {result result' : Except Stop Value}
    (h : ResultLike Eq (Value.Alike V) result result') :
    Outcome.ofResult span result = Outcome.ofResult span result' := by
  cases h with
  | ok values => cases values <;> rfl
  | error stops => rw [stops.eq]

theorem reduce_renumbered (globals : env.globals.Renumbered env'.globals) (s : Statement) :
    SameWith Bindings.Renumbered (reduce env s) (reduce env' s) := by
  obtain ⟨V, places, globals⟩ := globals
  have tops : Environment.Alike (V.since env.atTopLevel env'.atTopLevel) env.atTopLevel
      env'.atTopLevel env.atTopLevel env'.atTopLevel :=
    ⟨Bindings.rel_onward globals places, .nil, rfl, 0, rfl, rfl⟩
  refine reduce_agrees (layers_since maxEvalDepth) (·.nesting) (s.expr.like_self fun _ _ => rfl) tops ?_
  intro env env' result result' envs results
  exact ⟨⟨_, rfl, envs.globals⟩, ofResult_eq s.expr.span results⟩

/-- Statements that each do the same also do so one after another. -/
theorem run_same {G : Bindings → Bindings → Prop} (default default' : String)
    (reduces : ∀ {env env' : Environment}, G env.globals env'.globals → ∀ s,
      SameWith G (reduce env s) (reduce env' s))
    (statements : List Statement) (globals : G env.globals env'.globals) :
    SameWith G ((language default).run statements env) ((language default').run statements env') := by
  induction statements generalizing env env' with
  | nil => exact .done ⟨globals, rfl⟩
  | cons s rest ih =>
    refine .call globals fun aborted => ?_
    cases aborted with
    | true => exact .done ⟨globals, rfl⟩
    | false =>
      refine (reduces globals s).bind ?_
      rintro env env' outcome _ ⟨globals, rfl⟩
      cases outcome with
      | value text => exact .call globals fun _ => ih globals
      | unit => exact ih globals
      | exit | failed | cancelled | crashed => exact .done ⟨globals, rfl⟩

theorem run_renumbered (default default' : String) (statements : List Statement)
    (globals : env.globals.Renumbered env'.globals) : SameWith Bindings.Renumbered
      ((language default).run statements env) ((language default').run statements env') :=
  run_same default default' reduce_renumbered statements globals

/-- A statement starts with nothing but the globals. -/
theorem reduce_congr (globals : env.globals = env'.globals) (s : Statement) :
    reduce env s = reduce env' s := by
  unfold reduce Environment.atTopLevel
  rw [globals]

/-- From the same globals everything is the same, whatever else was left. -/
theorem run_congr (default default' : String) (statements : List Statement)
    (globals : env.globals = env'.globals) :
    SameWith Eq ((language default).run statements env) ((language default').run statements env') := by
  refine run_same default default' (fun globals s => ?_) statements globals
  rw [reduce_congr globals]
  apply Process.agrees_self
  · exact fun _ => rfl
  · exact fun _ _ => ⟨rfl, rfl⟩

end ScriptSession.Script
