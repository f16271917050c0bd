import Mathlib.Data.List.Forall2
import ScriptSession.Script.Environment
import ScriptSession.Script.Statement
import ScriptSession.Session.Running

/-!
# Alike up to places

Two expressions, values or environments are alike if they differ in places only, and the places
correspond (`Expr.Like`, `Value.Like`, `Environment.Like`); `R` says which ones do. Two processes are
alike if they make the same calls at states that are alike and, given the same replies, go on alike
(`Process.Like`).
-/
namespace ScriptSession

/-- The same calls, apart from the range of a warning, at corresponding states. -/
inductive Process.Like {σ τ α β : Type} (R : Span → Span → Prop) (S : σ → τ → Prop)
    (A : α → β → Prop) : Process σ α → Process τ β → Prop where
  | done {s t a b} : S s t → A a b → Like R S A (.done s a) (.done t b)
  | warn {s t message range range' resume resume'} : S s t → Option.Rel R range range' →
      Like R S A (resume ()) (resume' ()) →
      Like R S A (.call s (.warn message range) resume) (.call t (.warn message range') resume')
  | call {s t request resume resume'} : S s t →
      (∀ reply, Like R S A (resume reply) (resume' reply)) →
      Like R S A (.call s request resume) (.call t request resume')

theorem Process.Like.bind {σ τ α β γ δ : Type} {R : Span → Span → Prop} {S : σ → τ → Prop}
    {A : α → β → Prop} {C : γ → δ → Prop} {p : Process σ α} {q : Process τ β}
    {f : σ → α → Process σ γ} {g : τ → β → Process τ δ} (h : Process.Like R S A p q)
    (next : ∀ s t a b, S s t → A a b → Process.Like R S C (f s a) (g t b)) :
    Process.Like R S C (p.bind f) (q.bind g) := by
  induction h with
  | done states results => exact next _ _ _ _ states results
  | warn states ranges _ ih => exact .warn states ranges ih
  | call states _ ih => exact .call states ih

/-- Outcomes that differ in the place of a failure only; neither is a breakdown of the evaluator. -/
inductive Outcome.Like (R : Span → Span → Prop) : Outcome → Outcome → Prop where
  | value {text} : Like R (.value text) (.value text)
  | unit : Like R .unit .unit
  | exit : Like R .exit .exit
  | failed {message range range'} : Option.Rel R range range' →
      Like R (.failed message range) (.failed message range')
  | cancelled : Like R .cancelled .cancelled

/-- Ends that differ in the place of a failure only; neither is a breakdown of the evaluator. -/
inductive Finish.Like (R : Span → Span → Prop) : Finish → Finish → Prop where
  | completed : Like R .completed .completed
  | exited : Like R .exited .exited
  | failed {message range range'} : Option.Rel R range range' →
      Like R (.failed message range) (.failed message range')
  | cancelled : Like R .cancelled .cancelled

namespace Script

variable {R : Span → Span → Prop}

inductive Expr.Like (R : Span → Span → Prop) : Expr → Expr → Prop where
  | int {value s s'} : R s s' → Like R (.int value s) (.int value s')
  | str {text s s'} : R s s' → Like R (.str text s) (.str text s')
  | bool {value s s'} : R s s' → Like R (.bool value s) (.bool value s')
  | nil {s s'} : R s s' → Like R (.nil s) (.nil s')
  | word {name s s'} : R s s' → Like R (.word name s) (.word name s')
  | list {head head' rest rest' s s'} : Like R head head' → List.Forall₂ (Like R) rest rest' →
      R s s' → Like R (.list head rest s) (.list head' rest' s')

theorem Expr.Like.span {e e' : Expr} (h : e.Like R e') : R e.span e'.span := by
  cases h <;> assumption

theorem Expr.Like.word?_eq {e e' : Expr} (h : e.Like R e') : e.word? = e'.word? := by
  cases h <;> rfl

abbrev Statement.Like (R : Span → Span → Prop) (s s' : Statement) : Prop := s.expr.Like R s'.expr

/-- Procedures are alike if their bodies are; a number still tells one from another. -/
inductive Value.Like (R : Span → Span → Prop) : Value → Value → Prop where
  | int {n} : Like R (.int n) (.int n)
  | str {text} : Like R (.str text) (.str text)
  | bool {b} : Like R (.bool b) (.bool b)
  | nil : Like R .nil .nil
  | builtin {b} : Like R (.builtin b) (.builtin b)
  | procedure {id name params body body'} : body.Like R body' →
      Like R (.procedure ⟨id, name, params, body⟩) (.procedure ⟨id, name, params, body'⟩)

/-- The same names with values that are alike, in the same order. -/
abbrev Bindings.Like (R : Span → Span → Prop) : Bindings → Bindings → Prop :=
  List.Forall₂ fun a b => a.1 = b.1 ∧ a.2.Like R b.2

structure Environment.Like (R : Span → Span → Prop) (env env' : Environment) : Prop where
  globals : env.globals.Like R env'.globals
  frames : List.Forall₂ (Bindings.Like R) env.frames env'.frames
  nesting : env.nesting = env'.nesting
  nextClosure : env.nextClosure = env'.nextClosure

inductive Stop.Like (R : Span → Span → Prop) : Stop → Stop → Prop where
  | exit : Like R .exit .exit
  | cancelled : Like R .cancelled .cancelled
  | failure {message range range'} : Option.Rel R range range' →
      Like R (.failure message range) (.failure message range')

inductive ResultLike {α β : Type} (R : Span → Span → Prop) (A : α → β → Prop) :
    Except Stop α → Except Stop β → Prop where
  | ok {a b} : A a b → ResultLike R A (.ok a) (.ok b)
  | error {stop stop'} : stop.Like R stop' → ResultLike R A (.error stop) (.error stop')

/-- The same names with corresponding values, in the same order. -/
abbrev Bindings.Rel (P : Value → Value → Prop) : Bindings → Bindings → Prop :=
  List.Forall₂ fun a b => a.1 = b.1 ∧ P a.2 b.2

/-! ## Bindings -/

namespace Bindings.Rel

variable {P : Value → Value → Prop} {a b : Bindings}

theorem get? (h : a.Rel P b) (name : String) : Option.Rel P (a.get? name) (b.get? name) := by
  induction h with
  | nil => exact .none
  | @cons x y _ _ first _ ih =>
    obtain ⟨names, values⟩ := first
    unfold Bindings.get? at ih ⊢
    rw [List.find?_cons, List.find?_cons, names]
    split
    · exact .some values
    · exact ih

theorem set (h : a.Rel P b) (name : String) {v w : Value} (values : P v w) :
    (a.set name v).Rel P (b.set name w) := by
  induction h with
  | nil => exact .cons ⟨rfl, values⟩ .nil
  | @cons x y _ _ first rest ih =>
    obtain ⟨other, old⟩ := x
    obtain ⟨other', old'⟩ := y
    obtain ⟨rfl, olds⟩ := first
    unfold Bindings.set
    split
    · exact .cons ⟨rfl, values⟩ rest
    · exact .cons ⟨rfl, olds⟩ ih

theorem zip (params : List String) {args args' : List Value} (h : List.Forall₂ P args args') :
    Bindings.Rel P (params.zip args) (params.zip args') := by
  induction h generalizing params with
  | nil =>
    rw [List.zip_nil_right]
    exact .nil
  | cons first _ ih =>
    cases params with
    | nil => exact .nil
    | cons name params => exact .cons ⟨rfl, first⟩ (ih params)

end Bindings.Rel

theorem head?_rel {α β : Type} {P : α → β → Prop} {a : List α} {b : List β}
    (h : List.Forall₂ P a b) : Option.Rel P a.head? b.head? := by
  cases h with
  | nil => exact .none
  | cons first _ => exact .some first

theorem tail_rel {α β : Type} {P : α → β → Prop} {a : List α} {b : List β}
    (h : List.Forall₂ P a b) : List.Forall₂ P a.tail b.tail := by
  cases h with
  | nil => exact .nil
  | cons _ rest => exact rest

/-- Only the innermost frame is looked into, and the globals. -/
theorem lookup?_rel {P : Value → Value → Prop} {env env' : Environment}
    (globals : env.globals.Rel P env'.globals)
    (frames : Option.Rel (Bindings.Rel P) env.frames.head? env'.frames.head?) (name : String) :
    Option.Rel P (env.lookup? name) (env'.lookup? name) := by
  have globals := Bindings.Rel.get? globals name
  unfold Environment.lookup?
  generalize env.frames = inner at frames ⊢
  generalize env'.frames = inner' at frames ⊢
  cases inner with
  | nil =>
    cases inner' with
    | nil => exact globals
    | cons => cases frames
  | cons frame =>
    cases inner' with
    | nil => cases frames
    | cons frame' =>
      cases frames with
      | some first =>
        have found := Bindings.Rel.get? first name
        dsimp only
        generalize frame.get? name = value at found ⊢
        generalize frame'.get? name = value' at found ⊢
        cases found with
        | some values => exact .some values
        | none => exact globals

theorem Bindings.Like.freshId_eq {a b : Bindings} (h : a.Like R b) : a.freshId = b.freshId := by
  unfold Bindings.freshId
  generalize 0 = n
  induction h generalizing n with
  | nil => rfl
  | @cons x y _ _ first _ ih =>
    obtain ⟨other, old⟩ := x
    obtain ⟨other', old'⟩ := y
    obtain ⟨-, olds⟩ := first
    rw [List.foldl_cons, List.foldl_cons]
    cases olds <;> exact ih _

/-! ## Environments -/

namespace Environment.Like

variable {env env' : Environment}

theorem lookup? (h : env.Like R env') (name : String) :
    Option.Rel (Value.Like R) (env.lookup? name) (env'.lookup? name) :=
  lookup?_rel h.globals (head?_rel h.frames) name

theorem define (h : env.Like R env') (name : String) {v w : Value} (values : v.Like R w) :
    (env.define name v).Like R (env'.define name w) := by
  obtain ⟨globals, frames, nesting, next⟩ := env
  obtain ⟨globals', frames', nesting', next'⟩ := env'
  obtain ⟨globalsLike, framesLike, nestingEq, nextEq⟩ := h
  cases framesLike with
  | nil => exact ⟨Bindings.Rel.set globalsLike name values, .nil, nestingEq, nextEq⟩
  | cons first rest =>
    exact ⟨globalsLike, .cons (Bindings.Rel.set first name values) rest, nestingEq, nextEq⟩

theorem depth_eq (h : env.Like R env') : env.depth = env'.depth := h.frames.length_eq

theorem atTopLevel (h : env.Like R env') : env.atTopLevel.Like R env'.atTopLevel where
  globals := h.globals
  frames := .nil
  nesting := rfl
  nextClosure := Bindings.Like.freshId_eq h.globals

end Environment.Like

end Script

end ScriptSession
