import ScriptSession.Script.Reduce
import ScriptSession.Session.Running

/-!
# Evaluation that announces its calls

To speak about the moments when a call enters a builtin or the body of a procedure, evaluation is
written once more with a message at each of them (`Script.announcing`). Without a message it is the
evaluation that there is (`announcing_none`), and with one it does the same and says so besides
(`announcing_says`).

Evaluation is built from few pieces. A relation that these keep (`Evaluates.Closed`), and that calls
keep as well if the expressions inside them do, holds between evaluations as a whole
(`closed_evalStatement`); and so does a property of one evaluation.
-/
namespace ScriptSession

namespace Script

open Evaluates

/-- Says that something is entered, if that is wanted. -/
def announce : Option String → Evaluates Unit
  | some text => ask (.emit (.console .log text))
  | none => pure ()

section

variable (note : Option String)

def applyAnnouncing (eval : Expr → Evaluates Value) (callee : Value) (args : List Value)
    (span : Span) : Evaluates Value := do
  checkAborted
  match callee with
  | .builtin b => Evaluates.located (do announce note; b.call args) span
  | .procedure closure => applyClosure (fun body => do announce note; eval body) closure args span
  | other => failAt s!"cannot call a value of type {other.typeName}" span

/-- Only a call is evaluated in another way. -/
def evalPartsAnnouncing (eval : Expr → Evaluates Value) : Expr → Evaluates Value
  | .list head rest span =>
    match head.word?.bind SpecialForm.ofName? with
    | some form => (evalSpecial eval form rest).located span
    | none => do
      checkAborted
      let callee ← eval head
      let args ← evalAll eval rest
      applyAnnouncing note eval callee args span
  | other => evalParts eval other

def evalWithinAnnouncing : Nat → Expr → Evaluates Value
  | 0, e => failAt s!"maximum evaluation depth ({maxEvalDepth}) exceeded" e.span
  | room + 1, e => nested (evalPartsAnnouncing note (evalWithinAnnouncing room) e)

def evalAnnouncing (e : Expr) : Evaluates Value := fun env =>
  evalWithinAnnouncing note (maxEvalDepth - env.nesting) e env

/-- The evaluation of a statement from the environment that it starts in. -/
def evalStatement (env : Environment) (s : Statement) :
    Process Environment (Except Stop Value) :=
  match bareCallee? env s with
  | some callee => applyAnnouncing note (evalAnnouncing note) callee [] s.expr.span env
  | none => evalAnnouncing note s.expr env

def reduceAnnouncing (env : Environment) (s : Statement) : Process Environment Outcome :=
  (evalStatement note env.atTopLevel s).bind fun env result =>
    .done env (Outcome.ofResult s.expr.span result)

/-- The command language with a message whenever a builtin or the body of a procedure is entered. -/
def announcing (defaultPrompt : String) : Backend :=
  { language defaultPrompt with reduce := reduceAnnouncing note }

end

/-! ## Without a message -/

theorem evalPartsAnnouncing_none (eval : Expr → Evaluates Value) :
    evalPartsAnnouncing none eval = evalParts eval := by
  funext e
  cases e <;> rfl

theorem evalWithinAnnouncing_none (room : Nat) : evalWithinAnnouncing none room = evalWithin room := by
  induction room with
  | zero => rfl
  | succ room ih =>
    funext e
    rw [evalWithinAnnouncing, evalPartsAnnouncing_none, ih]
    rfl

theorem evalAnnouncing_none : evalAnnouncing none = eval := by
  funext e env
  rw [evalAnnouncing, evalWithinAnnouncing_none]
  rfl

theorem reduceAnnouncing_none : reduceAnnouncing none = reduce := by
  funext env s
  unfold reduceAnnouncing evalStatement
  rw [evalAnnouncing_none]
  rfl

/-- Evaluation without announcements is the one of the command language itself. -/
theorem announcing_none (defaultPrompt : String) :
    announcing none defaultPrompt = language defaultPrompt := by
  rw [announcing, reduceAnnouncing_none]
  rfl

/-! ## What evaluations have in common -/

/-- A relation between what two evaluations do from an environment. -/
abbrev Evaluates.Relation := {α : Type} → Environment → Process Environment (Except Stop α) →
  Process Environment (Except Stop α) → Prop

def Evaluates.Relates (R : Evaluates.Relation) {α : Type} (m m' : Evaluates α) : Prop :=
  ∀ env, R env (m env) (m' env)

/-- A property of what evaluations do from an environment. -/
abbrev Evaluates.Property :=
  {α : Type} → Environment → Process Environment (Except Stop α) → Prop

def Evaluates.Has (P : Evaluates.Property) {α : Type} (m : Evaluates α) : Prop :=
  ∀ env, P env (m env)

/-- A property as a relation that says nothing of the second evaluation. -/
abbrev Evaluates.first (P : Evaluates.Property) : Evaluates.Relation := fun env p _ => P env p

/-- The pieces of evaluations are related to themselves, or keep a relation of their parts. -/
structure Evaluates.Closed (R : Evaluates.Relation) : Prop where
  pure : ∀ {α : Type} (a : α), Relates R (Pure.pure a : Evaluates α) (Pure.pure a)
  bind : ∀ {α β : Type} {m m' : Evaluates α} {next next' : α → Evaluates β},
    Relates R m m' → (∀ a, Relates R (next a) (next' a)) → Relates R (m >>= next) (m' >>= next')
  failure : ∀ {α : Type} (message : String) (range : Option Span),
    Relates R (Evaluates.stop (.failure message range) : Evaluates α)
      (Evaluates.stop (.failure message range))
  get : Relates R Evaluates.get Evaluates.get
  count : ∀ n, Relates R (modify fun env => { env with nextClosure := n })
    (modify fun env => { env with nextClosure := n })
  /-- No special form is defined. -/
  define : ∀ name value, isSpecialForm name = false →
    Relates R (modify (·.define name value)) (modify (·.define name value))
  warn : ∀ message range, Relates R (ask (.warn message range)) (ask (.warn message range))
  checkAborted : Relates R Evaluates.checkAborted Evaluates.checkAborted
  located : ∀ {α : Type} {m m' : Evaluates α} (span : Span),
    Relates R m m' → Relates R (m.located span) (m'.located span)
  nested : ∀ {α : Type} {m m' : Evaluates α}, Relates R m m' → Relates R m.nested m'.nested

/-- The last part of a `set`: a procedure that is written there gets the name. -/
def assign (eval : Expr → Evaluates Value) (name : String) (valueExpr : Expr) : Evaluates Value :=
  match procedureLiteral? valueExpr with
  | some args => do
    let value ← makeProcedure (some name) args
    modify (·.define name value)
    pure .nil
  | none => do
    let value ← eval valueExpr
    modify (·.define name value)
    pure .nil

section

variable {R : Evaluates.Relation} (closed : Evaluates.Closed R)

include closed

theorem Evaluates.Closed.ofExcept {α : Type} (found : Except String α) :
    Relates R (Evaluates.ofExcept found) (Evaluates.ofExcept found) := by
  cases found with
  | ok a => exact closed.pure a
  | error message => exact closed.failure _ _

theorem closed_resolve (name : String) (span : Span) :
    Relates R (resolve name span) (resolve name span) := by
  refine closed.bind closed.get fun env => ?_
  split
  · exact closed.pure _
  · exact closed.failure _ _

theorem closed_makeProcedure (name : Option String) (args : List Expr) :
    Relates R (makeProcedure name args) (makeProcedure name args) := by
  unfold makeProcedure
  split
  · exact closed.failure _ _
  · split
    · exact closed.failure _ _
    · exact closed.bind closed.get fun env => closed.bind (closed.count _) fun _ => closed.pure _

variable {eval eval' : Expr → Evaluates Value} (parts : ∀ e, Relates R (eval e) (eval' e))

include parts

theorem closed_evalAll (items : List Expr) :
    Relates R (evalAll eval items) (evalAll eval' items) := by
  induction items with
  | nil => exact closed.pure _
  | cons e rest ih =>
    exact closed.bind (parts e) fun _ => closed.bind ih fun _ => closed.pure _

theorem closed_evalSequence (last : Value) (items : List Expr) :
    Relates R (evalSequence eval last items) (evalSequence eval' last items) := by
  induction items generalizing last with
  | nil => exact closed.pure _
  | cons e rest ih => exact closed.bind (parts e) fun value => ih value

theorem closed_evalConditional (items : List Expr) :
    Relates R (evalConditional eval items) (evalConditional eval' items) := by
  unfold evalConditional
  split
  · refine closed.bind (parts _) fun value => ?_
    split
    · exact parts _
    · exact closed.pure _
  · refine closed.bind (parts _) fun value => ?_
    split <;> exact parts _
  · exact closed.failure _ _

theorem closed_assign {name : String} (plain : isSpecialForm name = false) (valueExpr : Expr) :
    Relates R (assign eval name valueExpr) (assign eval' name valueExpr) := by
  have store : ∀ value, Relates R (do modify (·.define name value); pure Value.nil)
      (do modify (·.define name value); pure Value.nil) := fun value =>
    closed.bind (closed.define name value plain) fun _ => closed.pure _
  unfold assign
  split
  · exact closed.bind (closed_makeProcedure closed _ _) store
  · exact closed.bind (parts _) store

theorem closed_evalSet (items : List Expr) :
    Relates R (evalSet eval items) (evalSet eval' items) := by
  rcases items with _ | ⟨target, _ | ⟨value, _ | _⟩⟩
  · exact closed.failure _ _
  · exact closed.failure _ _
  · simp only [evalSet]
    split
    · exact closed.failure _ _
    · rename_i name _
      split
      · exact closed.failure _ _
      · rename_i plain
        refine closed.bind closed.get fun env => ?_
        have assigned := closed_assign closed parts (Bool.eq_false_iff.mpr plain) value
        split
        · exact closed.bind (closed.warn _ _) fun _ => assigned
        · exact assigned
  · exact closed.failure _ _

/-- Procedures are called inside a frame of their own. -/
theorem closed_applyClosure
    (frames : ∀ (frame : Bindings) {m m' : Evaluates Value}, Relates R m m' →
      Relates R (m.inFrame frame) (m'.inFrame frame))
    (closure : Closure) (args : List Value) (span : Span) :
    Relates R (applyClosure eval closure args span) (applyClosure eval' closure args span) := by
  unfold applyClosure
  dsimp only
  split
  · exact closed.failure _ _
  · refine closed.bind closed.get fun env => ?_
    split
    · exact closed.failure _ _
    · exact frames _ (parts closure.body)

theorem closed_evalSpecial (form : SpecialForm) (args : List Expr) :
    Relates R (evalSpecial eval form args) (evalSpecial eval' form args) := by
  cases form with
  | set => exact closed_evalSet closed parts args
  | procedure => exact closed_makeProcedure closed none args
  | conditional => exact closed_evalConditional closed parts args
  | sequence => exact closed_evalSequence closed parts .nil args

end

/-- Calls are related if the expressions inside them are, whatever either of them announces. -/
def CallsRelate (R : Evaluates.Relation) (note note' : Option String) : Prop :=
  ∀ eval eval' : Expr → Evaluates Value, (∀ e, Relates R (eval e) (eval' e)) →
    ∀ callee args span, Relates R (applyAnnouncing note eval callee args span)
      (applyAnnouncing note' eval' callee args span)

section

variable {R : Evaluates.Relation} {note note' : Option String}

theorem closed_evalParts (closed : Evaluates.Closed R) (calls : CallsRelate R note note')
    {eval eval' : Expr → Evaluates Value} (parts : ∀ e, Relates R (eval e) (eval' e)) (e : Expr) :
    Relates R (evalPartsAnnouncing note eval e) (evalPartsAnnouncing note' eval' e) := by
  cases e with
  | int | str | bool | nil => exact closed.pure _
  | word name span => exact closed_resolve closed name span
  | list head rest span =>
    simp only [evalPartsAnnouncing]
    split
    · exact closed.located span (closed_evalSpecial closed parts _ rest)
    · exact closed.bind closed.checkAborted fun _ => closed.bind (parts head) fun callee =>
        closed.bind (closed_evalAll closed parts rest) fun args =>
          calls eval eval' parts callee args span

theorem closed_evalWithin (closed : Evaluates.Closed R) (calls : CallsRelate R note note')
    (room : Nat) (e : Expr) :
    Relates R (evalWithinAnnouncing note room e) (evalWithinAnnouncing note' room e) := by
  induction room generalizing e with
  | zero => exact closed.failure _ _
  | succ room ih => exact closed.nested (closed_evalParts closed calls ih e)

theorem closed_eval (closed : Evaluates.Closed R) (calls : CallsRelate R note note') (e : Expr) :
    Relates R (evalAnnouncing note e) (evalAnnouncing note' e) :=
  fun env => closed_evalWithin closed calls _ e env

theorem closed_evalStatement (closed : Evaluates.Closed R) (calls : CallsRelate R note note')
    (env : Environment) (s : Statement) :
    R env (evalStatement note env s) (evalStatement note' env s) := by
  unfold evalStatement
  split
  · exact calls _ _ (closed_eval closed calls) _ _ _ env
  · exact closed_eval closed calls s.expr env

end

end Script

/-! ## With a message -/

/-- The process does what the other one does, and says the text now and then besides. -/
inductive Process.Says (text : String) {σ α : Type} : Process σ α → Process σ α → Prop where
  | done (s : σ) (a : α) : Says text (.done s a) (.done s a)
  | call {s : σ} {request : Call} {resume resume' : request.Reply → Process σ α} :
      (∀ reply, Says text (resume reply) (resume' reply)) →
      Says text (.call s request resume) (.call s request resume')
  | announced {s resume p} : Says text (resume ()) p →
      Says text (.call s (.emit (.console .log text)) resume) p

namespace Process

variable {σ α β : Type} {text : String}

theorem says_self (p : Process σ α) : p.Says text p := by
  induction p with
  | done s a => exact .done s a
  | call s request resume ih => exact .call ih

theorem Says.bind {p q : Process σ α} {next next' : σ → α → Process σ β} (h : p.Says text q)
    (goes : ∀ s a, (next s a).Says text (next' s a)) : (p.bind next).Says text (q.bind next') := by
  induction h with
  | done s a => exact goes s a
  | call _ ih => exact .call ih
  | announced _ ih => exact .announced ih

end Process

namespace Script

open Evaluates

/-- An evaluation that says the text besides. -/
abbrev Announces (text : String) : Evaluates.Relation := fun _ p q => p.Says text q

variable {text : String}

theorem closed_announces : Evaluates.Closed (Announces text) where
  pure _ _ := Process.says_self _
  bind first rest env := (first env).bind fun s result => by
    cases result with
    | ok a => exact rest a s
    | error stop => exact Process.says_self _
  failure _ _ _ := Process.says_self _
  get _ := Process.says_self _
  count _ _ := Process.says_self _
  define _ _ _ _ := Process.says_self _
  warn _ _ _ := Process.says_self _
  checkAborted _ := Process.says_self _
  located _ h env := (h env).bind fun _ _ => Process.says_self _
  nested h env := (h { env with nesting := env.nesting + 1 }).bind fun _ _ => Process.says_self _

theorem announces_note {α : Type} {m m' : Evaluates α} (h : Relates (Announces text) m m') :
    Relates (Announces text) (do announce (some text); m) (do announce none; m') :=
  fun env => Process.Says.announced (h env)

/-- Calls say the text besides if entering one does at most that. -/
theorem calls_announce_if {note : Option String}
    (entering : ∀ {m m' : Evaluates Value}, Relates (Announces text) m m' →
      Relates (Announces text) (do announce note; m) (do announce none; m')) :
    CallsRelate (Announces text) note none := by
  intro eval eval' parts callee args span
  refine closed_announces.bind closed_announces.checkAborted fun _ => ?_
  cases callee with
  | builtin b =>
    exact closed_announces.located span (entering fun env => Process.says_self _)
  | procedure closure =>
    have entered : ∀ e, Relates (Announces text) (do announce note; eval e)
        (do announce none; eval' e) := fun e => entering (parts e)
    refine closed_applyClosure closed_announces entered ?_ closure args span
    intro frame m m' h env
    exact (h { env with frames := frame :: env.frames }).bind fun _ _ => Process.says_self _
  | int | str | bool | nil => exact closed_announces.failure _ _

theorem calls_announce : CallsRelate (Announces text) (some text) none :=
  calls_announce_if announces_note

/-- Statements whose calls are announced do what they do otherwise, and say so besides. -/
theorem announcing_says (text default : String) (statements : List Statement) (env : Environment) :
    ((announcing (some text) default).run statements env).Says text
      ((language default).run statements env) := by
  induction statements generalizing env with
  | nil => exact .done _ _
  | cons s rest ih =>
    refine .call fun aborted => ?_
    cases aborted with
    | true => exact .done _ _
    | false =>
      have reduced : (reduceAnnouncing (some text) env s).Says text (reduce env s) := by
        rw [← reduceAnnouncing_none]
        exact (closed_evalStatement closed_announces calls_announce env.atTopLevel s).bind
          fun _ _ => .done _ _
      refine reduced.bind fun env outcome => ?_
      cases outcome with
      | value text => exact .call fun _ => ih env
      | unit => exact ih env
      | _ => exact .done _ _

end Script

end ScriptSession
