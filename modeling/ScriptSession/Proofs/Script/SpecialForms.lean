import ScriptSession.Proofs.Script.Exact

/-!
# Names of special forms

Nothing that is bound globally has the name of a special form, since `set` refuses such names. The names
of parameters are not refused: a procedure may have one called `if`, and its calls bind it
(`parameter_binds_special_form`). There is no other way. At every moment of an evaluation the special
forms that are bound are the parameters of that kind of the procedures that are being called, frame by
frame (`special_forms_bound_by_calls`).

To speak about every moment, evaluation is written once more, with the procedures that are being called
and with a check before and after each expression; where the check fails anything may happen instead
(`Script.checking`). No check fails, so this is the evaluation that there is (`reduceChecked_eq`).
-/
namespace ScriptSession

/-- Given such replies, the process comes to the state, at a call or at its end. -/
inductive Process.ComesTo {σ α : Type} : Process σ α → σ → Prop where
  | done {s a} : ComesTo (.done s a) s
  | call {s request resume} : ComesTo (.call s request resume) s
  | later {s t request resume} (reply) : ComesTo (resume reply) t → ComesTo (.call s request resume) t

theorem Process.Throughout.comesTo {σ α : Type} {S : σ → Prop} {p : Process σ α} {s : σ}
    (h : p.Throughout S) (comes : p.ComesTo s) : S s := by
  induction comes with
  | done => exact h
  | call => exact h.1
  | later reply _ ih => exact ih (h.2 reply)

namespace Script

open Evaluates

/-! ## Bound special forms -/

/-- The special forms that are bound, in the order of their first binding. -/
def Bindings.forms (b : Bindings) : List String := (b.map Prod.fst).filter isSpecialForm

/-- The parameters that are special forms. -/
def Closure.forms (closure : Closure) : List String := closure.params.filter isSpecialForm

/-- No special form is bound globally, and the frame of each call binds those that are parameters of its
procedure. -/
def Environment.BindsFormsOf (active : List Closure) (env : Environment) : Prop :=
  env.globals.forms = [] ∧ env.frames.map Bindings.forms = active.map Closure.forms

instance (active : List Closure) (env : Environment) : Decidable (env.BindsFormsOf active) :=
  inferInstanceAs (Decidable (_ ∧ _))

/-- The name is bound, globally or in the frame of a call. -/
def Environment.Binds (env : Environment) (name : String) : Prop :=
  ∃ b ∈ env.globals :: env.frames, name ∈ b.map Prod.fst

theorem Bindings.forms_set (b : Bindings) {name : String} (plain : isSpecialForm name = false)
    (value : Value) : (b.set name value).forms = b.forms := by
  induction b with
  | nil => simp [set, forms, plain]
  | cons entry rest ih =>
    obtain ⟨other, old⟩ := entry
    unfold set
    split
    · rename_i same
      rw [beq_iff_eq] at same
      simp [forms, same]
    · simp only [forms, List.map_cons, List.filter_cons] at ih ⊢
      rw [ih]

theorem Closure.forms_zip (closure : Closure) {args : List Value}
    (all : args.length = closure.params.length) :
    Bindings.forms (closure.params.zip args) = closure.forms := by
  unfold Bindings.forms forms
  rw [List.map_fst_zip (Nat.le_of_eq all.symm)]

theorem Bindings.mem_forms {b : Bindings} {name : String} :
    name ∈ b.forms ↔ name ∈ b.map Prod.fst ∧ isSpecialForm name = true := List.mem_filter

theorem Closure.mem_forms {closure : Closure} {name : String} :
    name ∈ closure.forms ↔ name ∈ closure.params ∧ isSpecialForm name = true := List.mem_filter

namespace Environment.BindsFormsOf

variable {active : List Closure} {closure : Closure} {env : Environment}

theorem define (h : env.BindsFormsOf active) {name : String} (plain : isSpecialForm name = false)
    (value : Value) : (env.define name value).BindsFormsOf active := by
  obtain ⟨globals, frames, nesting, next⟩ := env
  obtain ⟨noGlobal, calls⟩ := h
  cases frames with
  | nil => exact ⟨(globals.forms_set plain value).trans noGlobal, calls⟩
  | cons frame outer =>
    refine ⟨noGlobal, ?_⟩
    rw [← calls]
    exact congrArg (· :: outer.map Bindings.forms) (Bindings.forms_set frame plain value)

theorem enter (h : env.BindsFormsOf active) {frame : Bindings} (own : frame.forms = closure.forms) :
    BindsFormsOf (closure :: active) { env with frames := frame :: env.frames } :=
  ⟨h.1, congrArg₂ List.cons own h.2⟩

theorem leave (h : env.BindsFormsOf (closure :: active)) :
    BindsFormsOf active { env with frames := env.frames.tail } := by
  obtain ⟨noGlobal, calls⟩ := h
  refine ⟨noGlobal, ?_⟩
  rw [List.map_tail, calls]
  rfl

/-- A special form is bound exactly if a procedure that is being called has a parameter of that name. -/
theorem binds_iff (h : env.BindsFormsOf active) {name : String} (form : isSpecialForm name = true) :
    env.Binds name ↔ ∃ closure ∈ active, name ∈ closure.params := by
  obtain ⟨noGlobal, calls⟩ := h
  have bound (b : Bindings) : name ∈ b.map Prod.fst ↔ name ∈ b.forms :=
    (Bindings.mem_forms.trans (and_iff_left form)).symm
  have param (closure : Closure) : name ∈ closure.params ↔ name ∈ closure.forms :=
    (Closure.mem_forms.trans (and_iff_left form)).symm
  calc env.Binds name
    _ ↔ ∃ b ∈ env.globals :: env.frames, name ∈ b.forms := by simp only [Binds, bound]
    _ ↔ ∃ forms ∈ env.frames.map Bindings.forms, name ∈ forms := by simp [noGlobal]
    _ ↔ ∃ forms ∈ active.map Closure.forms, name ∈ forms := by rw [calls]
    _ ↔ ∃ closure ∈ active, name ∈ closure.params := by simp [param]

end Environment.BindsFormsOf

/-! ## Evaluation with checks -/

/-- The procedures that are being called once this value is called as well. -/
def Value.called (active : List Closure) : Value → List Closure
  | .procedure closure => closure :: active
  | _ => active

section

variable (otherwise : Evaluates Value)

/-- Checks before and after whether the environment binds the special forms that it should. -/
def checking (active : List Closure) (m : Evaluates Value) : Evaluates Value := fun env =>
  if env.BindsFormsOf active then
    (m env).bind fun env result =>
      if env.BindsFormsOf active then .done env result else otherwise env
  else otherwise env

/-- One level of evaluation. Only the body of a procedure is evaluated inside of one more call. -/
def evalPartsCalling (eval : List Closure → Expr → Evaluates Value) (active : List Closure) :
    Expr → Evaluates Value
  | .list head rest span =>
    match head.word?.bind SpecialForm.ofName? with
    | some form => (evalSpecial (eval active) form rest).located span
    | none => do
      checkAborted
      let callee ← eval active head
      let args ← evalAll (eval active) rest
      apply (eval (callee.called active)) callee args span
  | other => evalParts (eval active) other

def evalWithinChecked : Nat → List Closure → Expr → Evaluates Value
  | 0, active, e =>
    checking otherwise active (failAt s!"maximum evaluation depth ({maxEvalDepth}) exceeded" e.span)
  | room + 1, active, e =>
    checking otherwise active (nested (evalPartsCalling (evalWithinChecked room) active e))

def evalChecked (active : List Closure) (e : Expr) : Evaluates Value := fun env =>
  evalWithinChecked otherwise (maxEvalDepth - env.nesting) active e env

/-- Reduction with checks before and after everything that is evaluated. -/
def reduceChecked (env : Environment) (s : Statement) : Process Environment Outcome :=
  let env := env.atTopLevel
  let result := match bareCallee? env s with
    | some callee =>
      checking otherwise [] (apply (evalChecked otherwise (callee.called [])) callee [] s.expr.span) env
    | none => evalChecked otherwise [] s.expr env
  result.bind fun env result => .done env (Outcome.ofResult s.expr.span result)

end

/-! ## No check fails -/

/-- The same environment, in which no special form is bound globally. -/
abbrev PlainGlobals : Correspondence := fun s t => s = t ∧ s.globals.forms = []

/-- The same end, in an environment that binds the special forms of such calls. -/
abbrev SameForms (active : List Closure) {α : Type} (s t : Environment) (a b : α) : Prop :=
  s = t ∧ a = b ∧ s.BindsFormsOf active

/-- Two evaluations do the same from an environment that binds the special forms of such calls, and it
binds them still in the end. -/
abbrev KeepsForms (active : List Closure) : Evaluates.Relation := fun env p q =>
  env.BindsFormsOf active → Process.Agrees Eq PlainGlobals (SameForms active) p q

variable {active : List Closure}

theorem closed_keepsForms (active : List Closure) : Evaluates.Closed (KeepsForms active) where
  pure _ _ binds := .done ⟨rfl, rfl, binds⟩
  bind := by
    intro _ _ _ _ _ _ first rest env binds
    refine (first env binds).bind ?_
    rintro s _ result _ ⟨rfl, rfl, binds⟩
    cases result with
    | ok a => exact rest a s binds
    | error stop => exact .done ⟨rfl, rfl, binds⟩
  failure _ _ _ binds := .done ⟨rfl, rfl, binds⟩
  get _ binds := .done ⟨rfl, rfl, binds⟩
  count _ _ binds := .done ⟨rfl, rfl, binds⟩
  define _ value plain _ binds := .done ⟨rfl, rfl, binds.define plain value⟩
  warn _ _ _ binds := .call ⟨rfl, binds.1⟩ fun _ => .done ⟨rfl, rfl, binds⟩
  checkAborted _ binds := .call ⟨rfl, binds.1⟩ fun aborted => by
    cases aborted <;> exact .done ⟨rfl, rfl, binds⟩
  located _ h env binds := by
    refine (h env binds).bind ?_
    rintro s _ result _ ⟨rfl, rfl, binds⟩
    exact .done ⟨rfl, rfl, binds⟩
  nested h env binds := by
    refine (h { env with nesting := env.nesting + 1 } binds).bind ?_
    rintro s _ result _ ⟨rfl, rfl, binds⟩
    exact .done ⟨rfl, rfl, binds⟩

theorem keepsForms_inFrame {closure : Closure} {m m' : Evaluates Value}
    (h : Relates (KeepsForms (closure :: active)) m m') {frame : Bindings}
    (own : frame.forms = closure.forms) :
    Relates (KeepsForms active) (m.inFrame frame) (m'.inFrame frame) := by
  intro env binds
  refine (h _ (binds.enter own)).bind ?_
  rintro s _ result _ ⟨rfl, rfl, inside⟩
  exact .done ⟨rfl, rfl, inside.leave⟩

theorem keepsForms_checking (otherwise : Evaluates Value) {m m' : Evaluates Value}
    (h : Relates (KeepsForms active) m m') :
    Relates (KeepsForms active) (checking otherwise active m) m' := by
  intro env binds
  have checked : Process.Agrees Eq PlainGlobals (SameForms active)
      ((m env).bind fun s a => if s.BindsFormsOf active then .done s a else otherwise s)
      ((m' env).bind .done) := by
    refine (h env binds).bind ?_
    rintro s _ result _ ⟨rfl, rfl, after⟩
    rw [if_pos after]
    exact .done ⟨rfl, rfl, after⟩
  rw [Process.bind_done] at checked
  rwa [checking, if_pos binds]

/-- A builtin binds nothing. -/
theorem keepsForms_builtin (b : Builtin) (args : List Value) :
    Relates (KeepsForms active) (b.call args) (b.call args) := by
  intro env binds
  have shows : (View.exact PlainGlobals).Shows fun s t => s = t ∧ s.BindsFormsOf active :=
    ⟨fun same => ⟨same.1, same.2.1⟩, fun same => congrArg _ same.1⟩
  have alike : ValuesAlike (.exact PlainGlobals) args args :=
    List.forall₂_same.mpr fun v _ => v.alike_exact _
  refine (b.call_agrees shows alike env env ⟨rfl, binds⟩).imp ?_
  rintro s t a b ⟨⟨same, after⟩, results⟩
  exact ⟨same, results.eq, after⟩

section

variable {eval : List Closure → Expr → Evaluates Value} {eval' : Expr → Evaluates Value}
  (parts : ∀ active e, Relates (KeepsForms active) (eval active e) (eval' e))

include parts

/-- As many arguments as parameters make a frame that binds the special forms among the latter. -/
theorem keepsForms_applyClosure (closure : Closure) (args : List Value) (span : Span) :
    Relates (KeepsForms active) (applyClosure (eval (closure :: active)) closure args span)
      (applyClosure eval' closure args span) := by
  have closed := closed_keepsForms active
  unfold applyClosure
  dsimp only
  split
  · exact closed.failure _ _
  · rename_i all
    refine closed.bind closed.get fun env => ?_
    split
    · exact closed.failure _ _
    · exact keepsForms_inFrame (parts _ closure.body) (closure.forms_zip (not_not.mp all))

theorem keepsForms_apply (callee : Value) (args : List Value) (span : Span) :
    Relates (KeepsForms active) (apply (eval (callee.called active)) callee args span)
      (apply eval' callee args span) := by
  have closed := closed_keepsForms active
  refine closed.bind closed.checkAborted fun _ => ?_
  cases callee with
  | builtin b => exact closed.located span (keepsForms_builtin b args)
  | procedure closure => exact keepsForms_applyClosure parts closure args span
  | int | str | bool | nil => exact closed.failure _ _

theorem keepsForms_evalParts (e : Expr) :
    Relates (KeepsForms active) (evalPartsCalling eval active e) (evalParts eval' e) := by
  have closed := closed_keepsForms active
  cases e with
  | int | str | bool | nil => exact closed.pure _
  | word name span => exact closed_resolve closed name span
  | list head rest span =>
    simp only [evalPartsCalling, evalParts]
    cases head.word?.bind SpecialForm.ofName? with
    | some form => exact closed.located span (closed_evalSpecial closed (parts active) form rest)
    | none =>
      exact closed.bind closed.checkAborted fun _ => closed.bind (parts active head) fun callee =>
        closed.bind (closed_evalAll closed (parts active) rest) fun args =>
          keepsForms_apply parts callee args span

end

theorem keepsForms_evalWithin (otherwise : Evaluates Value) (room : Nat) (active : List Closure)
    (e : Expr) :
    Relates (KeepsForms active) (evalWithinChecked otherwise room active e) (evalWithin room e) := by
  -- The body of a procedure is evaluated with its call among the active ones, so these vary.
  induction room generalizing active e with
  | zero => exact keepsForms_checking otherwise ((closed_keepsForms active).failure _ _)
  | succ room ih =>
    exact keepsForms_checking otherwise ((closed_keepsForms active).nested
      (keepsForms_evalParts ih e))

theorem keepsForms_eval (otherwise : Evaluates Value) (active : List Closure) (e : Expr) :
    Relates (KeepsForms active) (evalChecked otherwise active e) (eval e) :=
  fun env => keepsForms_evalWithin otherwise _ active e env

/-! ## Statements -/

variable {env : Environment}

theorem reduceChecked_agrees (otherwise : Evaluates Value) (globals : env.globals.forms = [])
    (s : Statement) : Process.Agrees Eq PlainGlobals
      (fun s t a b => PlainGlobals s t ∧ a = b) (reduceChecked otherwise env s) (reduce env s) := by
  have binds : env.atTopLevel.BindsFormsOf [] := ⟨globals, rfl⟩
  unfold reduceChecked reduce
  refine Process.Agrees.bind (E := SameForms []) ?_ ?_
  · cases bareCallee? env.atTopLevel s with
    | some callee =>
      exact keepsForms_checking otherwise
        (keepsForms_apply (keepsForms_eval otherwise) callee [] s.expr.span) _ binds
    | none => exact keepsForms_eval otherwise [] s.expr _ binds
  · rintro s _ result _ ⟨rfl, rfl, after⟩
    exact .done ⟨⟨rfl, after.1⟩, rfl⟩

theorem reduceChecked_eq (otherwise : Evaluates Value) (globals : env.globals.forms = [])
    (s : Statement) : reduceChecked otherwise env s = reduce env s :=
  (reduceChecked_agrees otherwise globals s).eq (·.1) fun ends => ⟨ends.1.1, ends.2⟩

/-- Whatever a statement shows to the session binds no special form globally. -/
theorem reduce_forms (globals : env.globals.forms = []) (s : Statement) :
    (reduce env s).Throughout fun env => env.globals.forms = [] := by
  rw [← reduceChecked_eq (stop .exit) globals s]
  exact (reduceChecked_agrees (stop .exit) globals s).throughout (·.2) (·.1.2)

/-- What statements come to, one after another, each of them wherever the one before it ended or was
given up. -/
inductive Reachable : Environment → Prop where
  | initial : Reachable {}
  | reduced {env env' s} : Reachable env → (reduce env s).ComesTo env' → Reachable env'

theorem Reachable.forms (h : Reachable env) : env.globals.forms = [] := by
  induction h with
  | initial => rfl
  | reduced _ comes ih => exact (reduce_forms ih _).comesTo comes

/-- No special form is bound globally. Before and after each expression of a statement the frames bind
those that are parameters of the procedures being called; so a special form is bound just if one of
these has a parameter of that name. -/
theorem special_forms_bound_by_calls (h : Reachable env) :
    (∀ name, isSpecialForm name = true → name ∉ env.globals.map Prod.fst) ∧
    (∀ otherwise s, reduceChecked otherwise env s = reduce env s) ∧
    ∀ active (env' : Environment), env'.BindsFormsOf active → ∀ name, isSpecialForm name = true →
      (env'.Binds name ↔ ∃ closure ∈ active, name ∈ closure.params) := by
  refine ⟨fun name form bound => ?_, fun otherwise s => reduceChecked_eq otherwise h.forms s, ?_⟩
  · have none : name ∈ env.globals.forms := Bindings.mem_forms.mpr ⟨bound, form⟩
    rw [h.forms] at none
    cases none
  · exact fun active env' binds name form => binds.binds_iff form

/-- The body of `f` in `set f (fun if (add if 1))`. -/
def incrementBody : Expr :=
  let here : Span := .point .first
  .list (.word "add" here) [.word "if" here, .int 1 here] here

def definesIncrement : Statement :=
  let here : Span := .point .first
  ⟨.list (.word "set" here)
    [.word "f" here, .list (.word "fun" here) [.word "if" here, incrementBody] here] here⟩

def callsIncrement : Statement :=
  let here : Span := .point .first
  ⟨.list (.word "f" here) [.int 1 here] here⟩

def increment : Closure where
  id := 0
  name := some "f"
  params := ["if"]
  body := incrementBody

def incrementDefined : Environment where
  globals := [("f", .procedure increment)]
  nextClosure := 1

/-- Where the body is evaluated. -/
def insideIncrement : Environment :=
  { incrementDefined with frames := [[("if", .int 1)]], nesting := 2 }

theorem reachable_incrementDefined : Reachable incrementDefined :=
  .reduced (s := definesIncrement) .initial .done

/-- A procedure with the parameter `if` is called: no check fails, and in its body `if` is bound. -/
theorem forms_bound_by_increment :
    Reachable incrementDefined ∧ "if" ∉ incrementDefined.globals.map Prod.fst ∧
    reduceChecked (stop .exit) incrementDefined callsIncrement = reduce incrementDefined callsIncrement ∧
    insideIncrement.BindsFormsOf [increment] ∧ insideIncrement.Binds "if" := by
  obtain ⟨globals, checks, binds⟩ := special_forms_bound_by_calls reachable_incrementDefined
  have inside : insideIncrement.BindsFormsOf [increment] := by decide
  refine ⟨reachable_incrementDefined, globals "if" rfl, checks _ _, inside, ?_⟩
  exact (binds [increment] insideIncrement inside "if" rfl).mpr
    ⟨increment, List.mem_cons_self, List.mem_cons_self⟩

/-- In the body of that procedure a special form is bound. -/
theorem parameter_binds_special_form :
    ∃ env, Reachable env ∧ ∃ name, isSpecialForm name = true ∧ env.Binds name := by
  refine ⟨insideIncrement, ?_, "if", rfl, ?_⟩
  · refine .reduced (s := callsIncrement) reachable_incrementDefined ?_
    exact .later false (.later false .call)
  · exact ⟨[("if", .int 1)], List.mem_cons_of_mem _ List.mem_cons_self, List.mem_cons_self⟩

end Script

end ScriptSession
