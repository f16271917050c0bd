import ScriptSession.Proofs.Script.Builtins
import ScriptSession.Proofs.Script.Entering
import ScriptSession.Proofs.Script.Places

/-!
# Where evaluations point

An evaluation points at a place when it warns and when it fails. A procedure that was defined by an
earlier text is written there, so what fails in its body is not found in the text that calls it.
Warnings are given outside of every call only, where nothing but the text itself is evaluated.

Hence two kinds of places are told apart: those of the text and all that are known, which are those of
the procedures that are bound as well. On the top level expressions stand in the text, and anywhere
they stand at known places (`Here`). Evaluations keep to that (`evalWithin_points`): warnings point
into the text, failures at known places (`run_points`), and no procedure is made that stands elsewhere.
-/
namespace ScriptSession

/-- A warning has a range, which is such a place. -/
def Call.WarnsAt (P : Span → Prop) : Call → Prop
  | .warn _ range => ∃ place ∈ range, P place
  | _ => True

/-- Whatever the replies, the calls are such and made at such states, and the end is such. -/
def Process.Guarded {σ α : Type} (C : Call → Prop) (S : σ → Prop) (E : σ → α → Prop) :
    Process σ α → Prop
  | .done s a => E s a
  | .call s request resume => C request ∧ S s ∧ ∀ reply, Guarded C S E (resume reply)

theorem Process.Guarded.bind {σ α β : Type} {C : Call → Prop} {S : σ → Prop} {E : σ → α → Prop}
    {F : σ → β → Prop} {p : Process σ α} {next : σ → α → Process σ β} (h : p.Guarded C S E)
    (goes : ∀ s a, E s a → (next s a).Guarded C S F) : (p.bind next).Guarded C S F := by
  induction p with
  | done s a => exact goes s a h
  | call s request resume ih =>
    obtain ⟨call, state, later⟩ := h
    exact ⟨call, state, fun reply => ih reply (later reply)⟩

/-- A failure has a range, which is such a place. -/
def Outcome.FailsAt (P : Span → Prop) : Outcome → Prop
  | .failed _ range => ∃ place ∈ range, P place
  | _ => True

def Finish.FailsAt (P : Span → Prop) : Finish → Prop
  | .failed _ range => ∃ place ∈ range, P place
  | _ => True

namespace Script

/-! ## Known places -/

def Expr.Within (P : Span → Prop) (e : Expr) : Prop := ∀ s ∈ e.spans, P s

def Value.Within (P : Span → Prop) (v : Value) : Prop := ∀ s ∈ v.spans, P s

def Bindings.Within (P : Span → Prop) (b : Bindings) : Prop := ∀ entry ∈ b, entry.2.Within P

/-- So many calls are active, and every procedure stands at known places. -/
structure Environment.Knows (K : Span → Prop) (depth : Nat) (env : Environment) : Prop where
  depth : env.depth = depth
  globals : env.globals.Within K
  frames : ∀ frame ∈ env.frames, Bindings.Within K frame

/-- A place where expressions may stand inside of so many calls: a known one, and outside of every
call one in the text. -/
def Here (T K : Span → Prop) (depth : Nat) (s : Span) : Prop := K s ∧ (depth = 0 → T s)

section

variable {K T : Span → Prop} {depth : Nat} {env : Environment} {v : Value}

theorem Expr.Within.span {P : Span → Prop} {e : Expr} (h : e.Within P) : P e.span :=
  h _ e.span_mem_spans

theorem Expr.Within.known {e : Expr} (h : e.Within (Here T K depth)) : e.Within K :=
  fun s place => (h s place).1

/-- Inside of a call a procedure's body may stand at any known place. -/
theorem Expr.Within.inCall {e : Expr} (h : e.Within K) : e.Within (Here T K (depth + 1)) :=
  fun s place => ⟨h s place, nofun⟩

theorem Expr.Within.items {P : Span → Prop} {head : Expr} {rest : List Expr} {span : Span}
    (h : (Expr.list head rest span).Within P) : P span ∧ ∀ e ∈ head :: rest, e.Within P :=
  Expr.forall_spans_list.mp h

theorem Bindings.Within.get? {b : Bindings} {name : String} (h : b.Within K)
    (found : b.get? name = some v) : v.Within K := by
  obtain ⟨entry, there, rfl⟩ := Option.map_eq_some_iff.mp found
  exact h entry (List.mem_of_find?_eq_some there)

theorem Bindings.Within.set {b : Bindings} (h : b.Within K) (name : String) (value : v.Within K) :
    (b.set name v).Within K := by
  induction b with
  | nil => exact List.forall_mem_singleton.mpr value
  | cons first rest ih =>
    obtain ⟨old, others⟩ := List.forall_mem_cons.mp h
    unfold Bindings.set
    split
    · exact List.forall_mem_cons.mpr ⟨value, others⟩
    · exact List.forall_mem_cons.mpr ⟨old, ih others⟩

theorem Bindings.within_zip (params : List String) {args : List Value}
    (h : ∀ v ∈ args, v.Within K) : Bindings.Within K (params.zip args) :=
  fun entry mem => h entry.2 (List.of_mem_zip mem).2

namespace Environment.Knows

theorem lookup? {name : String} (h : env.Knows K depth) (found : env.lookup? name = some v) :
    v.Within K := by
  unfold Environment.lookup? at found
  split at found
  · exact h.globals.get? found
  · rename_i frame outer frames
    have inner : Bindings.Within K frame := h.frames frame (by simp [frames])
    rcases Option.or_eq_some_iff.mp found with here | ⟨-, globally⟩
    · exact inner.get? here
    · exact h.globals.get? globally

theorem define (h : env.Knows K depth) (name : String) (value : v.Within K) :
    (env.define name v).Knows K depth := by
  obtain ⟨globals, frames, nesting, next⟩ := env
  obtain ⟨depthEq, globalsWithin, framesWithin⟩ := h
  cases frames with
  | nil => exact ⟨depthEq, globalsWithin.set name value, framesWithin⟩
  | cons frame outer =>
    obtain ⟨first, others⟩ := List.forall_mem_cons.mp framesWithin
    exact ⟨depthEq, globalsWithin,
      List.forall_mem_cons.mpr ⟨Bindings.Within.set first name value, others⟩⟩

theorem enter {frame : Bindings} (h : env.Knows K depth) (within : frame.Within K) :
    Knows K (depth + 1) { env with frames := frame :: env.frames } :=
  ⟨congrArg (· + 1) h.depth, h.globals, List.forall_mem_cons.mpr ⟨within, h.frames⟩⟩

theorem leave (h : env.Knows K (depth + 1)) :
    Knows K depth { env with frames := env.frames.tail } := by
  refine ⟨?_, h.globals, fun frame mem => h.frames frame (List.mem_of_mem_tail mem)⟩
  have depthEq : env.frames.length = depth + 1 := h.depth
  exact (List.length_tail ..).trans (Nat.sub_eq_of_eq_add depthEq)

end Environment.Knows

end

/-! ## Evaluations -/

/-- A value is such, and a failure that has a range already is at a known place. -/
def ResultWithin {α : Type} (K : Span → Prop) (A : α → Prop) : Except Stop α → Prop
  | .ok a => A a
  | .error (.failure _ range) => ∀ place ∈ range, K place
  | .error _ => True

/-- Warnings point into the text, and what is known stays enough. -/
abbrev Keeps (T K : Span → Prop) (depth : Nat) {α : Type} (A : α → Prop) :
    Process Environment (Except Stop α) → Prop :=
  Process.Guarded (Call.WarnsAt T) (fun env => env.globals.Within K) fun env result =>
    env.Knows K depth ∧ ResultWithin K A result

/-- Inside of so many calls an evaluation points at such places only. -/
def Evaluates.Points (T K : Span → Prop) (depth : Nat) {α : Type} (A : α → Prop)
    (m : Evaluates α) : Prop :=
  ∀ env : Environment, env.Knows K depth → Keeps T K depth A (m env)

section

open Evaluates

variable {T K : Span → Prop} {depth : Nat} {α β : Type} {A : α → Prop} {B : β → Prop}

namespace Evaluates.Points

theorem pure {a : α} (h : A a) : Points T K depth A (Pure.pure a) := fun _ known => ⟨known, h⟩

theorem bind {m : Evaluates α} {next : α → Evaluates β} (h : Points T K depth A m)
    (rest : ∀ a, A a → Points T K depth B (next a)) : Points T K depth B (m >>= next) := by
  intro env known
  apply Process.Guarded.bind (h env known)
  intro s result ends
  obtain ⟨known', within⟩ := ends
  cases result with
  | ok a => exact rest a within s known'
  | error stop => cases stop <;> exact ⟨known', within⟩

theorem fail (message : String) : Points T K depth A (Evaluates.fail message) :=
  fun _ known => ⟨known, nofun⟩

theorem failAt (message : String) {range : Span} (place : K range) :
    Points T K depth A (Evaluates.failAt message range) :=
  fun _ known => ⟨known, fun _ same => Option.some.inj same ▸ place⟩

theorem cancelled : Points T K depth A (stop .cancelled) := fun _ known => ⟨known, trivial⟩

theorem exit : Points T K depth A (stop .exit) := fun _ known => ⟨known, trivial⟩

theorem ofExcept {found : Except String α} (h : ∀ a, found = .ok a → A a) :
    Points T K depth A (Evaluates.ofExcept found) := by
  cases found with
  | ok a => exact pure (h a rfl)
  | error message => exact fail message

theorem ask (request : Call) (warns : request.WarnsAt T) :
    Points T K depth (fun _ => True) (Evaluates.ask request) :=
  fun _ known => ⟨warns, known.globals, fun _ => ⟨known, trivial⟩⟩

/-- What goes on with the environment goes on from it. -/
theorem get {next : Environment → Evaluates α}
    (h : ∀ env : Environment, env.Knows K depth → Keeps T K depth A (next env env)) :
    Points T K depth A (Evaluates.get >>= next) := h

theorem modify {f : Environment → Environment}
    (h : ∀ env : Environment, env.Knows K depth → (f env).Knows K depth) :
    Points T K depth (fun _ => True) (Evaluates.modify f) :=
  fun env known => ⟨h env known, trivial⟩

/-- A failure without a range gets a known one. -/
theorem located {m : Evaluates α} {range : Span} (h : Points T K depth A m) (place : K range) :
    Points T K depth A (m.located range) := by
  intro env known
  apply Process.Guarded.bind (h env known)
  intro s result ends
  obtain ⟨known', within⟩ := ends
  refine ⟨known', ?_⟩
  match result, within with
  | .ok a, within => exact within
  | .error .exit, _ => exact trivial
  | .error .cancelled, _ => exact trivial
  | .error (.failure _ (some _)), within => exact within
  | .error (.failure _ none), _ => exact fun _ same => Option.some.inj same ▸ place

theorem inFrame {m : Evaluates α} {frame : Bindings} (h : Points T K (depth + 1) A m)
    (within : frame.Within K) : Points T K depth A (m.inFrame frame) := by
  intro env known
  apply Process.Guarded.bind (h _ (known.enter within))
  intro s result ends
  exact ⟨ends.1.leave, ends.2⟩

theorem nested {m : Evaluates α} (h : Points T K depth A m) : Points T K depth A m.nested := by
  intro env known
  have deeper : Environment.Knows K depth { env with nesting := env.nesting + 1 } :=
    ⟨known.depth, known.globals, known.frames⟩
  apply Process.Guarded.bind (h _ deeper)
  intro s result ends
  obtain ⟨⟨depthEq, globals, frames⟩, within⟩ := ends
  exact ⟨⟨depthEq, globals, frames⟩, within⟩

theorem checkAborted : Points T K depth (fun _ => True) Evaluates.checkAborted := by
  apply bind (ask .aborted trivial)
  intro aborted _
  split
  · exact cancelled
  · exact pure trivial

end Evaluates.Points

/-! ## Builtins -/

/-- Nothing corresponds, so only what has no place is alike. -/
def View.placeless : View := ⟨fun _ _ => False, Eq, fun _ _ => True, eq_oneToOne⟩

theorem Builtin.value_within (b : Builtin) {args : List Value} {v : Value}
    (given : b.value args = .ok v) : v.Within K := by
  have alike : v.Alike .placeless v := b.value_alike given
  cases alike with
  | procedure _ body => exact body.span.elim
  | _ => exact nofun

theorem Builtin.call_points (b : Builtin) (args : List Value) :
    Points T K depth (Value.Within K) (b.call args) := by
  have emits (level : Level) : Points T K depth (Value.Within K) (Builtin.emit level args) :=
    .bind (.ask (.emit _) trivial) fun _ _ => .pure nofun
  cases b with
  | print | log | info | warn | error => exact emits _
  | readline =>
    apply Points.bind (.ofExcept fun _ _ => trivial)
    intro _ _
    apply Points.bind (.ask (.readLine _) trivial)
    intro line _
    cases line with
    | some text => exact .pure nofun
    | none => exact .cancelled
  | sleep =>
    apply Points.bind (.ofExcept fun _ _ => trivial)
    intro millis _
    apply Points.bind (.ask (.sleep millis) trivial)
    intro passed _
    split
    · exact .pure nofun
    · exact .cancelled
  | fail => exact .bind (.ofExcept fun _ _ => trivial) fun _ _ => .fail _
  | exit => exact .bind (.ofExcept fun _ _ => trivial) fun _ _ => .exit
  | _ =>
    simp only [call]
    exact .ofExcept fun _ => value_within _

/-! ## Names and procedures -/

theorem resolve?_within {env : Environment} (known : env.Knows K depth) {name : String} {v : Value}
    (found : resolve? env name = .ok v) : v.Within K := by
  unfold resolve? at found
  split at found
  · rename_i bound
    cases found
    exact known.lookup? bound
  · split at found
    · cases found
      exact nofun
    · split at found <;> cases found

theorem resolve_points (name : String) {span : Span} (place : K span) :
    Points T K depth (Value.Within K) (resolve name span) := by
  apply Points.get
  intro env known
  cases found : resolve? env name with
  | ok v => exact Points.pure (resolve?_within known found) env known
  | error message => exact Points.failAt _ place env known

theorem paramNames_error {P : Span → Prop} {params : List Expr} (h : ∀ e ∈ params, e.Within P)
    {seen : List String} {message : String} {span : Span}
    (wrong : paramNames seen params = .error (message, span)) : P span := by
  induction params generalizing seen with
  | nil => cases wrong
  | cons param rest ih =>
    obtain ⟨first, others⟩ := List.forall_mem_cons.mp h
    unfold paramNames at wrong
    split at wrong
    · cases wrong
      exact first.span
    · split at wrong
      · cases wrong
        exact first.span
      · rename_i name _ _
        cases names : paramNames (seen ++ [name]) rest with
        | ok => simp [names, bind, Except.bind] at wrong
        | error found =>
          simp only [names, bind, Except.bind, Except.error.injEq] at wrong
          subst wrong
          exact ih others names

theorem makeProcedure_points (name : Option String) {args : List Expr}
    (h : ∀ e ∈ args, e.Within K) : Points T K depth (Value.Within K) (makeProcedure name args) := by
  unfold makeProcedure
  split
  · exact .fail _
  · rename_i body last
    split
    · rename_i wrong
      have params : ∀ e ∈ args.dropLast, e.Within K := fun e mem => h e (List.dropLast_subset args mem)
      exact .failAt _ (paramNames_error params wrong)
    · apply Points.get
      intro env known
      have within : body.Within K := h body (List.mem_of_getLast? last)
      exact ⟨⟨known.depth, known.globals, known.frames⟩, within⟩

theorem procedureLiteral?_within {P : Span → Prop} {e : Expr} (h : e.Within P) {args : List Expr}
    (literal : procedureLiteral? e = some args) : ∀ e ∈ args, e.Within P := by
  unfold procedureLiteral? at literal
  split at literal
  · split at literal
    · cases literal
      exact fun e mem => h.items.2 e (List.mem_cons_of_mem _ mem)
    · cases literal
  · cases literal

/-! ## Expressions -/

section

variable {eval : Expr → Evaluates Value}
  (parts : ∀ {depth : Nat} {e : Expr}, e.Within (Here T K depth) →
    Points T K depth (Value.Within K) (eval e))

include parts

theorem evalAll_points {items : List Expr} (h : ∀ e ∈ items, e.Within (Here T K depth)) :
    Points T K depth (fun values => ∀ v ∈ values, v.Within K) (evalAll eval items) := by
  induction items with
  | nil => exact .pure nofun
  | cons e rest ih =>
    obtain ⟨first, others⟩ := List.forall_mem_cons.mp h
    apply Points.bind (parts first)
    intro value within
    apply Points.bind (ih others)
    intro values later
    exact .pure (List.forall_mem_cons.mpr ⟨within, later⟩)

theorem evalSequence_points {items : List Expr} (h : ∀ e ∈ items, e.Within (Here T K depth))
    {last : Value} (within : last.Within K) :
    Points T K depth (Value.Within K) (evalSequence eval last items) := by
  induction items generalizing last with
  | nil => exact .pure within
  | cons e rest ih =>
    obtain ⟨first, others⟩ := List.forall_mem_cons.mp h
    exact .bind (parts first) fun value within => ih others within

theorem evalConditional_points {items : List Expr} (h : ∀ e ∈ items, e.Within (Here T K depth)) :
    Points T K depth (Value.Within K) (evalConditional eval items) := by
  unfold evalConditional
  split
  · apply Points.bind (parts (h _ (by simp)))
    intro value _
    split
    · exact parts (h _ (by simp))
    · exact .pure nofun
  · apply Points.bind (parts (h _ (by simp)))
    intro value _
    split
    · exact parts (h _ (by simp))
    · exact parts (h _ (by simp))
  · exact .fail _

theorem assign_points (name : String) {e : Expr} (h : e.Within (Here T K depth)) :
    Points T K depth (Value.Within K) (assign eval name e) := by
  have store (v : Value) (within : v.Within K) :
      Points T K depth (Value.Within K) (do modify (·.define name v); Pure.pure .nil) :=
    .bind (.modify fun _ known => known.define name within) fun _ _ => .pure nofun
  unfold assign
  split
  · rename_i args literal
    exact .bind (makeProcedure_points _ (procedureLiteral?_within h.known literal)) store
  · exact .bind (parts h) store

/-- Only outside of every call a `set` warns, and there its name stands in the text. -/
theorem evalSet_points {items : List Expr} (h : ∀ e ∈ items, e.Within (Here T K depth)) :
    Points T K depth (Value.Within K) (evalSet eval items) := by
  rcases items with _ | ⟨target, _ | ⟨value, _ | _⟩⟩
  · exact .fail _
  · exact .fail _
  · have target' : Here T K depth target.span := (h target (by simp)).span
    have value' : value.Within (Here T K depth) := h value (by simp)
    simp only [evalSet]
    split
    · exact .failAt _ target'.1
    · rename_i name _
      split
      · exact .failAt _ target'.1
      · have assigned := assign_points parts name value'
        apply Points.get
        intro env known
        split
        · rename_i shadows
          have outside : depth = 0 := by
            rw [Bool.and_eq_true, decide_eq_true_eq, known.depth] at shadows
            exact shadows.1
          exact Points.bind (.ask (.warn _ _) ⟨target.span, rfl, target'.2 outside⟩)
            (fun _ _ => assigned) env known
        · exact assigned env known
  · exact .fail _

theorem evalSpecial_points (form : SpecialForm) {items : List Expr}
    (h : ∀ e ∈ items, e.Within (Here T K depth)) :
    Points T K depth (Value.Within K) (evalSpecial eval form items) := by
  cases form with
  | set => exact evalSet_points parts h
  | procedure => exact makeProcedure_points none fun e mem => (h e mem).known
  | conditional => exact evalConditional_points parts h
  | sequence => exact evalSequence_points parts h nofun

/-- The body of a procedure is evaluated inside of one more call. -/
theorem applyClosure_points {closure : Closure} (body : closure.body.Within K) {args : List Value}
    (h : ∀ v ∈ args, v.Within K) {span : Span} (place : K span) :
    Points T K depth (Value.Within K) (applyClosure eval closure args span) := by
  unfold applyClosure
  dsimp only
  split
  · exact .failAt _ place
  · apply Points.get
    intro env known
    split
    · exact Points.failAt _ place env known
    · have called : Points T K (depth + 1) (Value.Within K) (eval closure.body) := parts body.inCall
      exact called.inFrame (Bindings.within_zip closure.params h) env known

theorem apply_points {callee : Value} (h : callee.Within K) {args : List Value}
    (within : ∀ v ∈ args, v.Within K) {span : Span} (place : K span) :
    Points T K depth (Value.Within K) (apply eval callee args span) := by
  apply Points.bind .checkAborted
  intro _ _
  cases callee with
  | builtin b => exact .located (b.call_points args) place
  | procedure closure => exact applyClosure_points parts h within place
  | int | str | bool | nil => exact .failAt _ place

theorem evalParts_points {e : Expr} (h : e.Within (Here T K depth)) :
    Points T K depth (Value.Within K) (evalParts eval e) := by
  cases e with
  | int | str | bool | nil => exact .pure nofun
  | word name span => exact resolve_points name h.span.1
  | list head rest span =>
    obtain ⟨place, items⟩ := h.items
    obtain ⟨first, others⟩ := List.forall_mem_cons.mp items
    simp only [evalParts]
    split
    · exact .located (evalSpecial_points parts _ others) place.1
    · apply Points.bind .checkAborted
      intro _ _
      apply Points.bind (parts first)
      intro callee known
      apply Points.bind (evalAll_points parts others)
      intro args within
      exact apply_points parts known within place.1

end

/-- What stands here is evaluated without pointing anywhere else, on all levels. -/
theorem evalWithin_points (room : Nat) {depth : Nat} {e : Expr} (h : e.Within (Here T K depth)) :
    Points T K depth (Value.Within K) (evalWithin room e) := by
  induction room generalizing depth e with
  | zero => exact .failAt _ h.span.1
  | succ room ih => exact .nested (evalParts_points ih h)

theorem eval_points {e : Expr} (h : e.Within (Here T K depth)) :
    Points T K depth (Value.Within K) (eval e) :=
  fun env known => evalWithin_points _ h env known

/-! ## Statements -/

theorem bareCallee?_within {env : Environment} (known : env.Knows K depth) {s : Statement}
    {callee : Value} (bare : bareCallee? env s = some callee) : callee.Within K := by
  simp only [bareCallee?, Option.bind_eq_bind, Option.bind_eq_some_iff] at bare
  obtain ⟨name, -, value, found, callable⟩ := bare
  split at callable
  · cases callable
    cases resolved : resolve? env name with
    | ok v =>
      rw [resolved] at found
      cases found
      exact resolve?_within known resolved
    | error message =>
      rw [resolved] at found
      cases found
  · cases callable

theorem ofResult_failsAt {span : Span} (place : K span) {result : Except Stop Value}
    (within : ResultWithin K (Value.Within K) result) : (Outcome.ofResult span result).FailsAt K := by
  unfold Outcome.ofResult
  split
  · exact trivial
  · exact trivial
  · exact trivial
  · exact trivial
  · rename_i message range
    cases range with
    | some range => exact ⟨range, rfl, within range rfl⟩
    | none => exact ⟨span, rfl, place⟩

/-- A statement starts outside of every call, whatever the one before it left behind. -/
theorem reduce_points {env : Environment} (globals : env.globals.Within K) {s : Statement}
    (h : s.expr.Within (Here T K 0)) :
    (reduce env s).Guarded (Call.WarnsAt T) (fun env => env.globals.Within K) fun env outcome =>
      env.globals.Within K ∧ outcome.FailsAt K := by
  have known : env.atTopLevel.Knows K 0 := ⟨rfl, globals, nofun⟩
  have ended {p : Process Environment (Except Stop Value)} (keeps : Keeps T K 0 (Value.Within K) p) :
      (p.bind fun env result => .done env (Outcome.ofResult s.expr.span result)).Guarded
        (Call.WarnsAt T) (fun env => env.globals.Within K) fun env outcome =>
          env.globals.Within K ∧ outcome.FailsAt K := by
    apply Process.Guarded.bind keeps
    intro env' result ends
    exact ⟨ends.1.globals, ofResult_failsAt h.span.1 ends.2⟩
  unfold reduce
  cases bare : bareCallee? env.atTopLevel s with
  | some callee =>
    have within := bareCallee?_within known bare
    simp only [bare]
    exact ended (apply_points eval_points within (List.forall_mem_nil _) h.span.1 _ known)
  | none =>
    simp only [bare]
    exact ended (eval_points h _ known)

/-- Statements that stand in the text warn in the text and fail at known places. -/
theorem run_points (default : String) {statements : List Statement}
    (h : ∀ s ∈ statements, s.expr.Within (Here T K 0)) {env : Environment}
    (globals : env.globals.Within K) :
    ((language default).run statements env).Guarded (Call.WarnsAt T)
      (fun env => env.globals.Within K) fun env finish => env.globals.Within K ∧ finish.FailsAt K := by
  induction statements generalizing env with
  | nil => exact ⟨globals, trivial⟩
  | cons s rest ih =>
    obtain ⟨first, others⟩ := List.forall_mem_cons.mp h
    refine ⟨trivial, globals, fun aborted => ?_⟩
    cases aborted with
    | true => exact ⟨globals, trivial⟩
    | false =>
      apply Process.Guarded.bind (reduce_points globals first)
      intro env' outcome ends
      obtain ⟨globals', fails⟩ := ends
      cases outcome with
      | value text => exact ⟨trivial, globals', fun _ => ih others globals'⟩
      | unit => exact ih others globals'
      | failed message range => exact ⟨globals', fails⟩
      | exit | cancelled | crashed => exact ⟨globals', trivial⟩

end

end Script

end ScriptSession
