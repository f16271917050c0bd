import ScriptSession.Proofs.Script.Builtins
import ScriptSession.Script.Reduce

/-!
# One level of evaluation agrees

If the parts of an expression agree and the bodies of procedures do, the expression agrees as a whole
(`evalParts_agrees`): nothing that is done at one level can tell apart what is alike.

Evaluation changes two counters as it goes deeper, the nesting and the number of active calls. A
family of correspondences with one for each pair of counts (`View.Layers`) is what evaluations keep
on all levels (`evalWithin_agrees`).
-/
namespace ScriptSession.Script

open Evaluates

variable {V : View} {S : Correspondence}

/-! ## Names and procedures -/

/-- Names that are bound to corresponding values, or not at all, are resolved alike. -/
theorem resolve?_rel {P : Value → Value → Prop} {env env' : Environment} {name : String}
    (h : Option.Rel P (env.lookup? name) (env'.lookup? name)) (plain : ∀ {b}, P (.builtin b) (.builtin b)) :
    (∃ v w, resolve? env name = .ok v ∧ resolve? env' name = .ok w ∧ P v w) ∨
    ∃ message, resolve? env name = .error message ∧ resolve? env' name = .error message := by
  unfold resolve?
  generalize env.lookup? name = found at h ⊢
  generalize env'.lookup? name = found' at h ⊢
  cases h with
  | some values => exact .inl ⟨_, _, rfl, rfl, values⟩
  | none =>
    cases Builtin.ofName? name with
    | some b => exact .inl ⟨_, _, rfl, rfl, plain⟩
    | none =>
      dsimp only
      split <;> exact .inr ⟨_, rfl, rfl⟩

theorem resolve_agrees (keeps : V.Keeps S) (name : String) {s s' : Span} (spans : V.places s s') :
    Agrees V S (Value.Alike V) (resolve name s) (resolve name s') := by
  refine Agrees.get fun env env' envs => ?_
  rcases resolve?_rel (keeps.lookup? envs name) .builtin with
    ⟨v, w, found, found', values⟩ | ⟨message, missing, missing'⟩
  · rw [found, found']
    exact Agrees.pure values env env' envs
  · rw [missing, missing']
    exact Agrees.failAt message spans env env' envs

variable {R : Span → Span → Prop}

inductive ParamsLike (R : Span → Span → Prop) : Except (String × Span) (List String) →
    Except (String × Span) (List String) → Prop where
  | ok {names} : ParamsLike R (.ok names) (.ok names)
  | error {message s s'} : R s s' → ParamsLike R (.error (message, s)) (.error (message, s'))

theorem paramNames_like (seen : List String) {params params' : List Expr}
    (h : List.Forall₂ (Expr.Like R) params params') :
    ParamsLike R (paramNames seen params) (paramNames seen params') := by
  induction h generalizing seen with
  | nil => exact .ok
  | @cons param param' rest rest' first _ ih =>
    unfold paramNames
    rw [first.word?_eq]
    cases param'.word? with
    | none => exact .error first.span
    | some name =>
      dsimp only
      split
      · exact .error first.span
      · have names := ih (seen ++ [name])
        generalize paramNames (seen ++ [name]) rest = found at names ⊢
        generalize paramNames (seen ++ [name]) rest' = found' at names ⊢
        cases names with
        | ok => exact .ok
        | error spans => exact .error spans

theorem getLast?_like {items items' : List Expr} (h : List.Forall₂ (Expr.Like R) items items') :
    Option.Rel (Expr.Like R) items.getLast? items'.getLast? := by
  induction h with
  | nil => exact .none
  | cons first rest ih =>
    cases rest with
    | nil => exact .some first
    | cons _ _ =>
      rw [List.getLast?_cons_cons, List.getLast?_cons_cons]
      exact ih

theorem dropLast_like {items items' : List Expr} (h : List.Forall₂ (Expr.Like R) items items') :
    List.Forall₂ (Expr.Like R) items.dropLast items'.dropLast := by
  induction h with
  | nil => exact .nil
  | cons first rest ih =>
    cases rest with
    | nil => exact .nil
    | cons _ _ => exact .cons first ih

theorem makeProcedure_agrees (keeps : V.Keeps S) (name : Option String) {args args' : List Expr}
    (h : List.Forall₂ (Expr.Like V.places) args args') :
    Agrees V S (Value.Alike V) (makeProcedure name args) (makeProcedure name args') := by
  unfold makeProcedure
  have last := getLast?_like h
  generalize args.getLast? = body at last ⊢
  generalize args'.getLast? = body' at last ⊢
  cases last with
  | none => exact Agrees.fail _
  | some bodies =>
    dsimp only
    have params := paramNames_like [] (dropLast_like h)
    generalize paramNames [] args.dropLast = names at params ⊢
    generalize paramNames [] args'.dropLast = names' at params ⊢
    cases params with
    | error spans => exact Agrees.failAt _ spans
    | ok =>
      refine Agrees.get fun env env' envs => ?_
      exact .done ⟨keeps.count envs, .ok (.procedure (keeps.number envs) bodies)⟩

theorem procedureLiteral?_like {e e' : Expr} (h : e.Like R e') :
    Option.Rel (List.Forall₂ (Expr.Like R)) (procedureLiteral? e) (procedureLiteral? e') := by
  cases h with
  | list head rest _ =>
    simp only [procedureLiteral?, head.word?_eq]
    split
    · exact .some rest
    · exact .none
  | _ => exact .none

/-! ## Expressions -/

section

variable {eval eval' : Expr → Evaluates Value}

/-- Evaluators that agree on these expressions. -/
def Faithful (V : View) (S : Correspondence) (items : List Expr)
    (eval eval' : Expr → Evaluates Value) : Prop :=
  ∀ e ∈ items, ∀ e', e.Like V.places e' → Agrees V S (Value.Alike V) (eval e) (eval' e')

/-- Evaluators that agree on the bodies of procedures, unless too many calls are active. -/
def Enters (V : View) (S : Correspondence) (eval eval' : Expr → Evaluates Value) : Prop :=
  ∀ e e' frame frame', e.Like V.places e' → Bindings.Rel (Value.Alike V) frame frame' →
    ∀ env env', S env env' → env.depth < maxCallDepth →
      V.Ends S (Value.Alike V) ((eval e).inFrame frame env) ((eval' e').inFrame frame' env')

theorem evalAll_agrees {items items' : List Expr} (faithful : Faithful V S items eval eval')
    (h : List.Forall₂ (Expr.Like V.places) items items') :
    Agrees V S (ValuesAlike V) (evalAll eval items) (evalAll eval' items') := by
  induction h with
  | nil => exact Agrees.pure .nil
  | @cons item _ _ _ first _ ih =>
    have rest := ih fun e mem => faithful e (List.mem_cons_of_mem item mem)
    apply Agrees.bind (faithful _ List.mem_cons_self _ first)
    intro value value' values
    exact Agrees.bind rest fun _ _ others => Agrees.pure (.cons values others)

theorem evalSequence_agrees {items items' : List Expr} (faithful : Faithful V S items eval eval')
    (h : List.Forall₂ (Expr.Like V.places) items items') {last last' : Value}
    (lasts : last.Alike V last') :
    Agrees V S (Value.Alike V) (evalSequence eval last items) (evalSequence eval' last' items') := by
  induction h generalizing last last' with
  | nil => exact Agrees.pure lasts
  | @cons item _ _ _ first _ ih =>
    exact Agrees.bind (faithful _ List.mem_cons_self _ first) fun _ _ values =>
      ih (fun e mem => faithful e (List.mem_cons_of_mem item mem)) values

theorem evalConditional_agrees {items items' : List Expr} (faithful : Faithful V S items eval eval')
    (h : List.Forall₂ (Expr.Like V.places) items items') :
    Agrees V S (Value.Alike V) (evalConditional eval items) (evalConditional eval' items') := by
  rcases h with _ | ⟨condition, _ | ⟨yes, _ | ⟨no, _ | _⟩⟩⟩
  · exact Agrees.fail _
  · exact Agrees.fail _
  · apply Agrees.bind (faithful _ (by simp) _ condition)
    intro value value' values
    rw [values.isTrue_eq]
    split
    · exact faithful _ (by simp) _ yes
    · exact Agrees.pure .nil
  · apply Agrees.bind (faithful _ (by simp) _ condition)
    intro value value' values
    rw [values.isTrue_eq]
    split
    · exact faithful _ (by simp) _ yes
    · exact faithful _ (by simp) _ no
  · exact Agrees.fail _

theorem store_agrees (keeps : V.Keeps S) (name : String) {value value' : Value}
    (h : value.Alike V value') :
    Agrees V S (Value.Alike V) (do modify (·.define name value); pure .nil)
      (do modify (·.define name value'); pure .nil) :=
  Agrees.bind (Agrees.modify fun _ _ envs => keeps.define envs name h) fun _ _ _ => Agrees.pure .nil

theorem assign_agrees (keeps : V.Keeps S) (name : String) {e e' : Expr} (h : e.Like V.places e')
    (values : Agrees V S (Value.Alike V) (eval e) (eval' e')) :
    Agrees V S (Value.Alike V)
      (match procedureLiteral? e with
        | some args => do
          let value ← makeProcedure (some name) args
          modify (·.define name value)
          pure .nil
        | none => do
          let value ← eval e
          modify (·.define name value)
          pure .nil)
      (match procedureLiteral? e' with
        | some args => do
          let value ← makeProcedure (some name) args
          modify (·.define name value)
          pure .nil
        | none => do
          let value ← eval' e'
          modify (·.define name value)
          pure .nil) := by
  have literal := procedureLiteral?_like h
  generalize procedureLiteral? e = args at literal ⊢
  generalize procedureLiteral? e' = args' at literal ⊢
  cases literal with
  | some params =>
    exact Agrees.bind (makeProcedure_agrees keeps _ params) fun _ _ values =>
      store_agrees keeps name values
  | none => exact Agrees.bind values fun _ _ values => store_agrees keeps name values

theorem evalSet_agrees (keeps : V.Keeps S) {items items' : List Expr}
    (faithful : Faithful V S items eval eval')
    (h : List.Forall₂ (Expr.Like V.places) items items') :
    Agrees V S (Value.Alike V) (evalSet eval items) (evalSet eval' items') := by
  rcases h with _ | ⟨target, _ | ⟨value, _ | _⟩⟩
  · exact Agrees.fail _
  · exact Agrees.fail _
  · simp only [evalSet, target.word?_eq]
    split
    · exact Agrees.failAt _ target.span
    · rename_i name _
      split
      · exact Agrees.failAt _ target.span
      · refine Agrees.get fun env env' envs => ?_
        rw [keeps.depth envs]
        have assigned := assign_agrees keeps name value (faithful _ (by simp) _ value)
        split
        · exact Agrees.bind (Agrees.warn keeps.toShows _ target.span) (fun _ _ _ => assigned)
            env env' envs
        · exact assigned env env' envs
  · exact Agrees.fail _

theorem evalSpecial_agrees (keeps : V.Keeps S) (form : SpecialForm) {items items' : List Expr}
    (faithful : Faithful V S items eval eval')
    (h : List.Forall₂ (Expr.Like V.places) items items') :
    Agrees V S (Value.Alike V) (evalSpecial eval form items) (evalSpecial eval' form items') := by
  cases form with
  | set => exact evalSet_agrees keeps faithful h
  | procedure => exact makeProcedure_agrees keeps none h
  | conditional => exact evalConditional_agrees faithful h
  | sequence => exact evalSequence_agrees faithful h .nil

theorem applyClosure_agrees (shows : V.Shows S) (enters : Enters V S eval eval') {id id' : Nat}
    {name : Option String} {params : List String} {body body' : Expr}
    (bodies : body.Like V.places body') {args args' : List Value} (h : ValuesAlike V args args')
    {s s' : Span} (spans : V.places s s') :
    Agrees V S (Value.Alike V) (applyClosure eval ⟨id, name, params, body⟩ args s)
      (applyClosure eval' ⟨id', name, params, body'⟩ args' s') := by
  unfold applyClosure
  dsimp only
  rw [h.length_eq]
  split
  · exact Agrees.failAt _ spans
  · refine Agrees.get fun env env' envs => ?_
    rw [← shows.depth envs]
    split
    · exact Agrees.failAt _ spans env env' envs
    · rename_i room
      exact enters _ _ _ _ bodies (Bindings.Rel.zip params h) env env' envs (Nat.lt_of_not_le room)

theorem apply_agrees (shows : V.Shows S) (enters : Enters V S eval eval') {callee callee' : Value}
    (callees : callee.Alike V callee') {args args' : List Value} (h : ValuesAlike V args args')
    {s s' : Span} (spans : V.places s s') :
    Agrees V S (Value.Alike V) (apply eval callee args s) (apply eval' callee' args' s') := by
  apply Agrees.bind (Agrees.checkAborted shows)
  intro _ _ _
  cases callees with
  | builtin => exact Agrees.located (Builtin.call_agrees shows _ h) spans
  | procedure _ bodies => exact applyClosure_agrees shows enters bodies h spans
  | int | str | bool | nil => exact Agrees.failAt _ spans

/-- The expressions that an expression is made of. -/
def Expr.items : Expr → List Expr
  | .list head rest _ => head :: rest
  | _ => []

theorem evalParts_agrees (keeps : V.Keeps S) {e e' : Expr} (h : e.Like V.places e')
    (faithful : Faithful V S e.items eval eval') (enters : Enters V S eval eval') :
    Agrees V S (Value.Alike V) (evalParts eval e) (evalParts eval' e') := by
  cases h with
  | int => exact Agrees.pure .int
  | str => exact Agrees.pure .str
  | bool => exact Agrees.pure .bool
  | nil => exact Agrees.pure .nil
  | word spans => exact resolve_agrees keeps _ spans
  | @list head head' rest rest' span span' heads rests spans =>
    have faithful' : Faithful V S rest eval eval' := fun e mem =>
      faithful e (List.mem_cons_of_mem head mem)
    simp only [evalParts, heads.word?_eq]
    cases head'.word?.bind SpecialForm.ofName? with
    | some form => exact Agrees.located (evalSpecial_agrees keeps form faithful' rests) spans
    | none =>
      apply Agrees.bind (Agrees.checkAborted keeps.toShows)
      intro _ _ _
      apply Agrees.bind (faithful head List.mem_cons_self _ heads)
      intro _ _ callees
      apply Agrees.bind (evalAll_agrees faithful' rests)
      intro _ _ args
      exact apply_agrees keeps.toShows enters callees args spans

end

/-! ## Levels -/

/-- One correspondence for each nesting and number of active calls, up to a nesting. What is nested or
called is between environments of another layer. -/
structure View.Layers (V : View) (F : Nat → Nat → Correspondence) (most : Nat) : Prop where
  keeps : ∀ {n k}, n ≤ most → V.Keeps (F n k)
  nest : ∀ {n k env env'}, F n k env env' →
    F (n + 1) k { env with nesting := env.nesting + 1 } { env' with nesting := env'.nesting + 1 }
  unnest : ∀ {n k env env'}, F (n + 1) k env env' →
    F n k { env with nesting := env.nesting - 1 } { env' with nesting := env'.nesting - 1 }
  enter : ∀ {n k env env' frame frame'}, F n k env env' → env.depth < maxCallDepth →
    Bindings.Rel (Value.Alike V) frame frame' →
    F n (k + 1) { env with frames := frame :: env.frames } { env' with frames := frame' :: env'.frames }
  leave : ∀ {n k env env'}, F n (k + 1) env env' →
    F n k { env with frames := env.frames.tail } { env' with frames := env'.frames.tail }

namespace View.Layers

variable {F : Nat → Nat → Correspondence} {most n k : Nat} {eval eval' : Expr → Evaluates Value}

theorem nested (layers : V.Layers F most) {α β : Type} {A : α → β → Prop} {m : Evaluates α}
    {m' : Evaluates β} (h : Agrees V (F (n + 1) k) A m m') : Agrees V (F n k) A m.nested m'.nested :=
  fun _ _ envs => h.between (layers.nest envs) fun _ _ => layers.unnest

theorem enters (layers : V.Layers F most)
    (h : ∀ e e', e.Like V.places e' → Agrees V (F n (k + 1)) (Value.Alike V) (eval e) (eval' e')) :
    Enters V (F n k) eval eval' :=
  fun e e' _ _ bodies frames _ _ envs room =>
    (h e e' bodies).between (layers.enter envs room frames) fun _ _ => layers.leave

/-- One more level over parts and bodies that agree. -/
theorem level (layers : V.Layers F most) (room : n < most) {e e' : Expr} (h : e.Like V.places e')
    (parts : Faithful V (F (n + 1) k) e.items eval eval')
    (bodies : ∀ e e', e.Like V.places e' →
      Agrees V (F (n + 1) (k + 1)) (Value.Alike V) (eval e) (eval' e')) :
    Agrees V (F n k) (Value.Alike V) (Evaluates.nested (evalParts eval e))
      (Evaluates.nested (evalParts eval' e')) :=
  layers.nested (evalParts_agrees (layers.keeps room) h parts (layers.enters bodies))

end View.Layers

theorem evalWithin_agrees {F : Nat → Nat → Correspondence} {most : Nat} (layers : V.Layers F most)
    {room n : Nat} (bound : n + room ≤ most) (k : Nat) {e e' : Expr} (h : e.Like V.places e') :
    Agrees V (F n k) (Value.Alike V) (evalWithin room e) (evalWithin room e') := by
  induction room generalizing n k e e' with
  | zero => exact Agrees.failAt _ h.span
  | succ room ih =>
    have deeper : n + 1 + room ≤ most := by omega
    exact layers.level (by omega) h (fun _ _ _ item => ih deeper k item)
      fun _ _ body => ih deeper (k + 1) body

theorem eval_agrees {F : Nat → Nat → Correspondence} {most n : Nat} (layers : V.Layers F most)
    (k : Nat) (start : ∀ env env', F n k env env' →
      env.nesting = env'.nesting ∧ n + (maxEvalDepth - env.nesting) ≤ most)
    {e e' : Expr} (h : e.Like V.places e') : Agrees V (F n k) (Value.Alike V) (eval e) (eval e') := by
  intro env env' envs
  obtain ⟨nesting, bound⟩ := start env env' envs
  unfold eval
  rw [← nesting]
  exact evalWithin_agrees layers bound k h env env' envs

end ScriptSession.Script
