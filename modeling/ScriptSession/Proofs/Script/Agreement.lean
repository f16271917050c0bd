import ScriptSession.Proofs.Script.Likeness

/-!
# Evaluations that agree

Two processes agree if they make the same calls and, given the same replies, go on so to ends that
correspond (`Process.Agrees`). A `View` says what is compared of two evaluations: which places
correspond, which numbers of procedures, and what has to hold of the environments at every call. Two
evaluations agree from environments that correspond if their processes do and their environments
correspond again at the end (`Evaluates.Agrees`). Whatever evaluations are built from keeps that.
-/
namespace ScriptSession

/-- The same calls, apart from the range of a warning. `C` holds of the states at every call, and `E`
of the final ones with the results. -/
inductive Process.Agrees {σ τ α β : Type} (R : Span → Span → Prop) (C : σ → τ → Prop)
    (E : σ → τ → α → β → Prop) : Process σ α → Process τ β → Prop where
  | done {s t a b} : E s t a b → Agrees R C E (.done s a) (.done t b)
  | warn {s t message range range' resume resume'} : C s t → Option.Rel R range range' →
      Agrees R C E (resume ()) (resume' ()) →
      Agrees R C E (.call s (.warn message range) resume) (.call t (.warn message range') resume')
  | call {s t request resume resume'} : C s t →
      (∀ reply, Agrees R C E (resume reply) (resume' reply)) →
      Agrees R C E (.call s request resume) (.call t request resume')

theorem Process.Agrees.bind {σ τ α β γ δ : Type} {R : Span → Span → Prop} {C : σ → τ → Prop}
    {E : σ → τ → α → β → Prop} {F : σ → τ → γ → δ → Prop} {p : Process σ α} {q : Process τ β}
    {f : σ → α → Process σ γ} {g : τ → β → Process τ δ} (h : Process.Agrees R C E p q)
    (next : ∀ s t a b, E s t a b → Process.Agrees R C F (f s a) (g t b)) :
    Process.Agrees R C F (p.bind f) (q.bind g) := by
  induction h with
  | done ends => exact next _ _ _ _ ends
  | warn states ranges _ ih => exact .warn states ranges ih
  | call states _ ih => exact .call states ih

theorem Process.agrees_self {σ α : Type} {R : Span → Span → Prop} {C : σ → σ → Prop}
    {E : σ → σ → α → α → Prop} (calls : ∀ s, C s s) (ends : ∀ s a, E s s a a) (p : Process σ α) :
    p.Agrees R C E p := by
  induction p with
  | done s a => exact .done (ends s a)
  | call s request resume ih => exact .call (calls s) ih

namespace Script

/-- What is compared of two evaluations. -/
structure View where
  places : Span → Span → Prop
  numbers : Nat → Nat → Prop
  /-- What holds of the environments at every call. -/
  calls : Environment → Environment → Prop
  oneToOne : ∀ {i i' j j' : Nat}, numbers i i' → numbers j j' → (i = j ↔ i' = j')

theorem eq_oneToOne {i i' j j' : Nat} (first : i = i') (second : j = j') : i = j ↔ i' = j' := by
  rw [first, second]

/-- What environments have in common from which evaluations agree. -/
abbrev Correspondence := Environment → Environment → Prop

variable {V : View} {S T : Correspondence}

/-- Procedures are alike if their bodies are and their numbers correspond. -/
inductive Value.Alike (V : View) : Value → Value → Prop where
  | int {n} : Alike V (.int n) (.int n)
  | str {text} : Alike V (.str text) (.str text)
  | bool {b} : Alike V (.bool b) (.bool b)
  | nil : Alike V .nil .nil
  | builtin {b} : Alike V (.builtin b) (.builtin b)
  | procedure {id id' name params body body'} : V.numbers id id' → body.Like V.places body' →
      Alike V (.procedure ⟨id, name, params, body⟩) (.procedure ⟨id', name, params, body'⟩)

abbrev ValuesAlike (V : View) : List Value → List Value → Prop :=
  List.Forall₂ (Value.Alike V)

/-- Processes that agree and leave environments that correspond. -/
abbrev View.Ends {α β : Type} (V : View) (S : Correspondence) (A : α → β → Prop) :
    Process Environment (Except Stop α) → Process Environment (Except Stop β) → Prop :=
  Process.Agrees V.places V.calls fun s t a b => S s t ∧ ResultLike V.places A a b

/-- Evaluations that agree from all environments that correspond. -/
def Evaluates.Agrees {α β : Type} (V : View) (S : Correspondence) (A : α → β → Prop)
    (m : Evaluates α) (m' : Evaluates β) : Prop :=
  ∀ env env', S env env' → V.Ends S A (m env) (m' env')

/-- At environments that correspond calls may be made, and as many calls are active. -/
structure View.Shows (V : View) (S : Correspondence) : Prop where
  calls : ∀ {env env'}, S env env' → V.calls env env'
  depth : ∀ {env env'}, S env env' → env.depth = env'.depth

/-- Environments that correspond give a name values that are alike, and still correspond after a
definition and after a new procedure has got its number. -/
structure View.Keeps (V : View) (S : Correspondence) : Prop extends V.Shows S where
  lookup? : ∀ {env env'}, S env env' → ∀ name,
    Option.Rel (Value.Alike V) (env.lookup? name) (env'.lookup? name)
  define : ∀ {env env'}, S env env' → ∀ name {v w}, v.Alike V w →
    S (env.define name v) (env'.define name w)
  number : ∀ {env env'}, S env env' → V.numbers env.nextClosure env'.nextClosure
  count : ∀ {env env'}, S env env' → S { env with nextClosure := env.nextClosure + 1 }
    { env' with nextClosure := env'.nextClosure + 1 }

/-! ## Values -/

namespace Value.Alike

variable {v w v' w' : Value}

theorem text_eq (h : v.Alike V w) : v.text = w.text := by cases h <;> rfl

theorem isTrue_eq (h : v.Alike V w) : v.isTrue = w.isTrue := by cases h <;> rfl

theorem same_eq (h : v.Alike V w) (h' : v'.Alike V w') : v.same v' = w.same w' := by
  cases h <;> cases h' <;> try rfl
  rename_i numbers _ _ _ _ _ _ _ numbers' _
  simp only [Value.same]
  rw [Bool.eq_iff_iff, beq_iff_eq, beq_iff_eq]
  exact V.oneToOne numbers numbers'

end Value.Alike

theorem ValuesAlike.texts_eq {args args' : List Value} (h : ValuesAlike V args args') :
    args.map Value.text = args'.map Value.text := by
  induction h with
  | nil => rfl
  | cons first _ ih => rw [List.map_cons, List.map_cons, first.text_eq, ih]

/-! ## Evaluations -/

namespace Evaluates.Agrees

variable {α β γ δ : Type} {A : α → β → Prop} {C : γ → δ → Prop}

theorem pure {a : α} {b : β} (h : A a b) :
    Evaluates.Agrees V S A (Pure.pure a) (Pure.pure b) :=
  fun _ _ envs => .done ⟨envs, .ok h⟩

theorem bind {m : Evaluates α} {m' : Evaluates β} {next : α → Evaluates γ}
    {next' : β → Evaluates δ} (h : Evaluates.Agrees V S A m m')
    (rest : ∀ a b, A a b → Evaluates.Agrees V S C (next a) (next' b)) :
    Evaluates.Agrees V S C (m >>= next) (m' >>= next') := by
  intro env env' envs
  apply (h env env' envs).bind
  intro s t a b ends
  obtain ⟨states, results⟩ := ends
  cases results with
  | ok values => exact rest _ _ values s t states
  | error stops => exact .done ⟨states, .error stops⟩

theorem stop {reason reason' : Stop} (h : reason.Like V.places reason') :
    Evaluates.Agrees V S A (Evaluates.stop reason) (Evaluates.stop reason') :=
  fun _ _ envs => .done ⟨envs, .error h⟩

theorem fail (message : String) :
    Evaluates.Agrees V S A (Evaluates.fail message) (Evaluates.fail message) :=
  stop (.failure .none)

theorem failAt (message : String) {s s' : Span} (h : V.places s s') :
    Evaluates.Agrees V S A (Evaluates.failAt message s) (Evaluates.failAt message s') :=
  stop (.failure (.some h))

theorem ofExcept (found : Except String α) :
    Evaluates.Agrees V S (· = ·) (Evaluates.ofExcept found) (Evaluates.ofExcept found) := by
  cases found with
  | ok a => exact pure rfl
  | error message => exact fail message

theorem ask (shows : V.Shows S) (request : Call) :
    Evaluates.Agrees V S (· = ·) (Evaluates.ask request) (Evaluates.ask request) :=
  fun _ _ envs => .call (shows.calls envs) fun _ => .done ⟨envs, .ok rfl⟩

theorem warn (shows : V.Shows S) (message : String) {s s' : Span} (h : V.places s s') :
    Evaluates.Agrees V S (fun _ _ => True) (Evaluates.ask (.warn message (some s)))
      (Evaluates.ask (.warn message (some s'))) :=
  fun _ _ envs => .warn (shows.calls envs) (.some h) (.done ⟨envs, .ok trivial⟩)

/-- What goes on with the environment goes on from it. -/
theorem get {next : Environment → Evaluates α} {next' : Environment → Evaluates β}
    (h : ∀ env env', S env env' → V.Ends S A (next env env) (next' env' env')) :
    Evaluates.Agrees V S A (Evaluates.get >>= next) (Evaluates.get >>= next') := h

theorem modify {f f' : Environment → Environment}
    (h : ∀ env env', S env env' → S (f env) (f' env')) :
    Evaluates.Agrees V S (· = ·) (Evaluates.modify f) (Evaluates.modify f') :=
  fun env env' envs => .done ⟨h env env' envs, .ok rfl⟩

theorem located {m : Evaluates α} {m' : Evaluates β} {s s' : Span}
    (h : Evaluates.Agrees V S A m m') (spans : V.places s s') :
    Evaluates.Agrees V S A (m.located s) (m'.located s') := by
  intro env env' envs
  apply (h env env' envs).bind
  intro _ _ a b ends
  obtain ⟨states, results⟩ := ends
  cases results with
  | ok values => exact .done ⟨states, .ok values⟩
  | error stops =>
    refine .done ⟨states, .error ?_⟩
    cases stops with
    | exit => exact .exit
    | cancelled => exact .cancelled
    | failure ranges =>
      cases ranges with
      | some inner => exact .failure (.some inner)
      | none => exact .failure (.some spans)

/-- What runs in between may start from another correspondence, to which entering leads. -/
theorem between {m : Evaluates α} {m' : Evaluates β}
    {enter enter' leave leave' : Environment → Environment} (h : Evaluates.Agrees V T A m m')
    {env env' : Environment} (entering : T (enter env) (enter' env'))
    (leaving : ∀ s t, T s t → S (leave s) (leave' t)) :
    V.Ends S A (m.between enter leave env) (m'.between enter' leave' env') := by
  apply (h _ _ entering).bind
  intro s t a b ends
  exact .done ⟨leaving s t ends.1, ends.2⟩

theorem checkAborted (shows : V.Shows S) :
    Evaluates.Agrees V S (· = ·) Evaluates.checkAborted Evaluates.checkAborted := by
  apply bind (ask shows .aborted)
  rintro aborted _ rfl
  split
  · exact stop .cancelled
  · exact pure rfl

end Evaluates.Agrees

end Script

end ScriptSession
