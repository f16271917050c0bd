import ScriptSession.Proofs.Script.Exact

/-!
# Procedures see their parameters and the globals

A procedure that is called finds the globals and its own parameters. It cannot look into the frames of
its callers, and it leaves them, the globals and the nesting as they were, however it ends
(`procedures_see_globals_only`). Two calls from environments with the same globals, depth and nesting
therefore do the same, whatever stands in the frames of the callers.

Procedures made meanwhile are numbered from where either environment had come to, so what corresponds
of two such calls are the numbers that were known before, and those that follow (`View.renumbering`).
-/
namespace ScriptSession.Script

open Evaluates

/-- Nothing of the environment has changed but the number of the next procedure. -/
structure Environment.Untouched (env s : Environment) : Prop where
  globals : s.globals = env.globals
  frames : s.frames = env.frames
  nesting : s.nesting = env.nesting

/-- What holds inside a call: the globals are those at the call, and the frames of the callers stand
below the new ones. -/
structure Environment.Under (env s : Environment) : Prop where
  globals : s.globals = env.globals
  frames : env.frames <:+ s.frames

theorem Environment.Untouched.under {env s : Environment} (h : env.Untouched s) : env.Under s :=
  ⟨h.globals, h.frames ▸ List.suffix_rfl⟩

/-- As many procedures have been made since on both sides. -/
def Environment.CountAlike (env env' s t : Environment) : Prop :=
  ∃ made, s.nextClosure = env.nextClosure + made ∧ t.nextClosure = env'.nextClosure + made

/-- Environments between calls from which nobody inside can tell one from the other. -/
structure Callers (V : View) (env env' : Environment) : Prop where
  places : ∀ s, V.places s s
  globals : env.globals.Rel (Value.Alike V) env'.globals
  depth : env.depth = env'.depth
  nesting : env.nesting = env'.nesting
  numbers : ∀ made, V.numbers (env.nextClosure + made) (env'.nextClosure + made)
  calls : ∀ {s t}, env.Under s → env'.Under t → V.calls s t

/-- Both sides are where they were at the call. -/
structure AtCall (env env' s t : Environment) : Prop where
  left : env.Untouched s
  right : env'.Untouched t
  count : env.CountAlike env' s t

/-- Both sides are inside the call: above the frames of the callers there are one for the call and `k`
more. -/
structure Inside (V : View) (env env' : Environment) (n k : Nat) (s t : Environment) : Prop where
  left : s.globals = env.globals
  right : t.globals = env'.globals
  nesting : s.nesting = n
  nesting' : t.nesting = n
  frames : ∃ frame frame' more more', s.frames = frame :: (more ++ env.frames) ∧
    t.frames = frame' :: (more' ++ env'.frames) ∧ more.length = k ∧
    Bindings.Rel (Value.Alike V) frame frame' ∧ List.Forall₂ (Bindings.Rel (Value.Alike V)) more more'
  count : env.CountAlike env' s t

variable {V : View} {env env' : Environment} {n k : Nat} {s t : Environment}

theorem Environment.CountAlike.next (h : env.CountAlike env' s t) : env.CountAlike env'
    { s with nextClosure := s.nextClosure + 1 } { t with nextClosure := t.nextClosure + 1 } := by
  obtain ⟨made, left, right⟩ := h
  exact ⟨made + 1, by rw [← Nat.add_assoc, ← left], by rw [← Nat.add_assoc, ← right]⟩

namespace Inside

theorem calls (callers : Callers V env env') (h : Inside V env env' n k s t) : V.calls s t := by
  obtain ⟨frame, frame', more, more', left, right, -⟩ := h.frames
  exact callers.calls ⟨h.left, frame :: more, left.symm⟩ ⟨h.right, frame' :: more', right.symm⟩

theorem depth_eq (callers : Callers V env env') (h : Inside V env env' n k s t) :
    s.depth = t.depth := by
  obtain ⟨frame, frame', more, more', left, right, -, -, inner⟩ := h.frames
  have below : env.frames.length = env'.frames.length := callers.depth
  simp only [Environment.depth, left, right, List.length_cons, List.length_append, inner.length_eq,
    below]

theorem lookup? (callers : Callers V env env') (h : Inside V env env' n k s t) (name : String) :
    Option.Rel (Value.Alike V) (s.lookup? name) (t.lookup? name) := by
  obtain ⟨frame, frame', more, more', left, right, -, first, -⟩ := h.frames
  refine lookup?_rel ?_ ?_ name
  · rw [h.left, h.right]
    exact callers.globals
  · rw [left, right]
    exact .some first

/-- There is a frame of the call's own, so a definition goes there. -/
theorem define (h : Inside V env env' n k s t) (name : String) {v w : Value} (values : v.Alike V w) :
    Inside V env env' n k (s.define name v) (t.define name w) := by
  obtain ⟨frame, frame', more, more', left, right, length, first, inner⟩ := h.frames
  unfold Environment.define
  rw [left, right]
  exact ⟨h.left, h.right, h.nesting, h.nesting',
    ⟨_, _, more, more', rfl, rfl, length, first.set name values, inner⟩, h.count⟩

theorem enter (h : Inside V env env' n k s t) {frame frame' : Bindings}
    (first : Bindings.Rel (Value.Alike V) frame frame') : Inside V env env' n (k + 1)
      { s with frames := frame :: s.frames } { t with frames := frame' :: t.frames } := by
  obtain ⟨old, old', more, more', left, right, length, before, inner⟩ := h.frames
  refine ⟨h.left, h.right, h.nesting, h.nesting', ⟨frame, frame', old :: more, old' :: more', ?_, ?_,
    congrArg (· + 1) length, first, .cons before inner⟩, h.count⟩
  · rw [left, List.cons_append]
  · rw [right, List.cons_append]

theorem leave (h : Inside V env env' n (k + 1) s t) : Inside V env env' n k
    { s with frames := s.frames.tail } { t with frames := t.frames.tail } := by
  obtain ⟨frame, frame', more, more', left, right, length, first, inner⟩ := h.frames
  cases inner with
  | nil => cases length
  | @cons old old' more more' before inner =>
    refine ⟨h.left, h.right, h.nesting, h.nesting', ⟨old, old', more, more', ?_, ?_,
      Nat.succ.inj length, before, inner⟩, h.count⟩
    · rw [left, List.cons_append, List.tail_cons]
    · rw [right, List.cons_append, List.tail_cons]

end Inside

theorem layers_inside (callers : Callers V env env') (most : Nat) :
    V.Layers (Inside V env env') most where
  keeps _ := {
    calls := fun h => h.calls callers
    depth := fun h => h.depth_eq callers
    lookup? := fun h name => h.lookup? callers name
    define := fun h name _ _ values => h.define name values
    number := by
      intro s t h
      obtain ⟨made, left, right⟩ := h.count
      rw [left, right]
      exact callers.numbers made
    count := fun h => ⟨h.left, h.right, h.nesting, h.nesting', h.frames, h.count.next⟩ }
  nest h := ⟨h.left, h.right, congrArg (· + 1) h.nesting, congrArg (· + 1) h.nesting', h.frames,
    h.count⟩
  unnest h := ⟨h.left, h.right, congrArg (· - 1) h.nesting, congrArg (· - 1) h.nesting', h.frames,
    h.count⟩
  enter h _ frames := h.enter frames
  leave h := h.leave

theorem AtCall.enter (callers : Callers V env env') (h : AtCall env env' s t)
    {frame frame' : Bindings} (first : Bindings.Rel (Value.Alike V) frame frame') :
    Inside V env env' env.nesting 0 { s with frames := frame :: s.frames }
      { t with frames := frame' :: t.frames } := by
  refine ⟨h.left.globals, h.right.globals, h.left.nesting, ?_,
    ⟨frame, frame', [], [], ?_, ?_, rfl, first, .nil⟩, h.count⟩
  · exact h.right.nesting.trans callers.nesting.symm
  · exact congrArg (frame :: ·) h.left.frames
  · exact congrArg (frame' :: ·) h.right.frames

theorem Inside.back (callers : Callers V env env') (h : Inside V env env' env.nesting 0 s t) :
    AtCall env env' { s with frames := s.frames.tail } { t with frames := t.frames.tail } := by
  obtain ⟨frame, frame', more, more', left, right, length, -, inner⟩ := h.frames
  have none : more = [] := List.eq_nil_of_length_eq_zero length
  subst none
  cases inner
  exact ⟨⟨h.left, by rw [left]; rfl, h.nesting⟩,
    ⟨h.right, by rw [right]; rfl, h.nesting'.trans callers.nesting⟩, h.count⟩

theorem shows_atCall (callers : Callers V env env') : V.Shows (AtCall env env') where
  calls h := callers.calls h.left.under h.right.under
  depth h := by
    have below : env.frames.length = env'.frames.length := callers.depth
    unfold Environment.depth
    rw [h.left.frames, h.right.frames, below]

theorem enters_atCall (callers : Callers V env env') : Enters V (AtCall env env') eval eval := by
  intro body body' frame frame' bodies frames s t envs _
  have layers := layers_inside callers (env.nesting + maxEvalDepth)
  have inner := eval_agrees (n := env.nesting) layers 0 (fun s t inside =>
    ⟨inside.nesting.trans inside.nesting'.symm, by omega⟩) bodies
  exact inner.between (envs.enter callers frames) fun _ _ => Inside.back callers

/-- A call from environments that nobody inside can tell apart. -/
theorem call_between (callers : Callers V env env') (closure : Closure) {args args' : List Value}
    (h : ValuesAlike V args args') (span : Span) :
    V.Ends (AtCall env env') (Value.Alike V) (apply eval (.procedure closure) args span env)
      (apply eval (.procedure closure) args' span env') := by
  have bodies : closure.body.Like V.places closure.body :=
    closure.body.like_self fun s _ => callers.places s
  have same : AtCall env env' env env' := ⟨⟨rfl, rfl, rfl⟩, ⟨rfl, rfl, rfl⟩, 0, rfl, rfl⟩
  have checked := Agrees.checkAborted (shows_atCall callers)
  refine Agrees.bind checked (fun _ _ _ => ?_) env env' same
  exact applyClosure_agrees (shows_atCall callers) (enters_atCall callers) bodies h
    (callers.places span)

/-! ## The same globals -/

/-- The procedures that are known have numbers below the next one. -/
def Environment.Numbers (env : Environment) (args : List Value) : Prop :=
  ∀ closure, Value.procedure closure ∈ args ++ env.globals.map Prod.snd → closure.id < env.nextClosure

/-- The least number from `n` on that the value does not have. -/
def Value.above (n : Nat) : Value → Nat
  | .procedure closure => max n (closure.id + 1)
  | _ => n

theorem Bindings.freshId_eq (b : Bindings) : b.freshId = b.foldl (fun n entry => entry.2.above n) 0 :=
  rfl

theorem Value.le_above (n : Nat) (v : Value) : n ≤ v.above n := by
  cases v with
  | procedure closure => exact Nat.le_max_left _ _
  | _ => exact Nat.le_refl n

theorem Bindings.le_foldl_above (b : Bindings) (n : Nat) :
    n ≤ b.foldl (fun n entry => entry.2.above n) n := by
  induction b generalizing n with
  | nil => exact Nat.le_refl n
  | cons entry rest ih => exact Nat.le_trans (entry.2.le_above n) (ih _)

theorem Bindings.lt_freshId {b : Bindings} {closure : Closure}
    (mem : Value.procedure closure ∈ b.map Prod.snd) : closure.id < b.freshId := by
  rw [freshId_eq]
  generalize 0 = n
  induction b generalizing n with
  | nil => cases mem
  | cons entry rest ih =>
    rw [List.map_cons, List.mem_cons] at mem
    rcases mem with first | later
    · have counted : closure.id < entry.2.above n := by
        rw [← first]
        exact Nat.le_max_right _ _
      exact Nat.lt_of_lt_of_le counted (le_foldl_above rest _)
    · exact ih later _

/-- Every statement starts so. -/
theorem numbers_atTopLevel (env : Environment) : env.atTopLevel.Numbers [] :=
  fun _ mem => Bindings.lt_freshId mem

/-- Numbers that were given before are the same ones, and those given later correspond in their
order. -/
def View.renumbering (env env' : Environment) : View where
  places := Eq
  numbers i j := i = j ∧ i < env.nextClosure ∧ j < env'.nextClosure ∨
    ∃ made, i = env.nextClosure + made ∧ j = env'.nextClosure + made
  calls s t := env.Under s ∧ env'.Under t
  oneToOne := by
    rintro i i' j j' (known | ⟨made, left, right⟩) (known' | ⟨made', left', right'⟩) <;> omega

theorem alike_renumbering {args : List Value} (known : env.Numbers args) (known' : env'.Numbers args)
    (globals : env.globals = env'.globals) {v : Value} (mem : v ∈ args ++ env.globals.map Prod.snd) :
    v.Alike (.renumbering env env') v := by
  refine v.alike_self (fun _ => rfl) ?_
  rintro closure rfl
  exact .inl ⟨rfl, known closure mem, known' closure (globals ▸ mem)⟩

theorem callers_renumbering {args : List Value} (known : env.Numbers args)
    (known' : env'.Numbers args) (globals : env.globals = env'.globals)
    (depth : env.depth = env'.depth) (nesting : env.nesting = env'.nesting) :
    Callers (.renumbering env env') env env' where
  places _ := rfl
  globals := by
    rw [← globals]
    refine List.forall₂_same.mpr fun entry mem => ⟨rfl, alike_renumbering known known' globals ?_⟩
    exact List.mem_append_right _ (List.mem_map_of_mem mem)
  depth := depth
  nesting := nesting
  numbers made := .inr ⟨made, rfl, rfl⟩
  calls left right := ⟨left, right⟩

/-- The frames of the callers are all that differs. -/
theorem callers_exact (globals : env.globals = env'.globals) (depth : env.depth = env'.depth)
    (nesting : env.nesting = env'.nesting) (next : env.nextClosure = env'.nextClosure) :
    Callers (.exact fun s t => env.Under s ∧ env'.Under t) env env' where
  places _ := rfl
  globals := globals ▸ List.forall₂_same.mpr fun entry _ => ⟨rfl, entry.2.alike_exact _⟩
  depth := depth
  nesting := nesting
  numbers made := congrArg (· + made) next
  calls left right := ⟨left, right⟩

/-- The same calls with the same result. -/
theorem call_exact (globals : env.globals = env'.globals) (depth : env.depth = env'.depth)
    (nesting : env.nesting = env'.nesting) (next : env.nextClosure = env'.nextClosure)
    (closure : Closure) (args : List Value) (span : Span) :
    Process.Agrees Eq (fun s t => env.Under s ∧ env'.Under t)
      (fun s t a b => AtCall env env' s t ∧ a = b) (apply eval (.procedure closure) args span env)
      (apply eval (.procedure closure) args span env') := by
  have values := List.forall₂_same.mpr fun (v : Value) (_ : v ∈ args) =>
    v.alike_exact fun s t => env.Under s ∧ env'.Under t
  have called := call_between (callers_exact globals depth nesting next) closure values span
  exact called.imp fun ends => ⟨ends.1, ends.2.eq⟩

/-- Inside a call the globals and the frames of the callers are what they were at every moment, also
if the evaluation is given up there. -/
theorem call_under (env : Environment) (closure : Closure) (args : List Value) (span : Span) :
    (apply eval (.procedure closure) args span env).Throughout env.Under :=
  (call_exact rfl rfl rfl rfl closure args span).throughout And.left fun ends => ends.1.left.under

/-- A call leaves everything of its callers as it was, on every outcome, and does the same for all
callers with the same globals, depth and nesting. What numbers new procedures get does not matter
either, if they are new. -/
theorem procedures_see_globals_only (closure : Closure) (args : List Value) (span : Span) :
    (∀ env, (apply eval (.procedure closure) args span env).EndsIn env.Untouched) ∧
    ∀ env env' : Environment, env.globals = env'.globals → env.depth = env'.depth →
      env.nesting = env'.nesting →
      (env.nextClosure = env'.nextClosure →
        Process.Agrees Eq (fun s t => env.Under s ∧ env'.Under t)
          (fun s t a b => AtCall env env' s t ∧ a = b)
          (apply eval (.procedure closure) args span env)
          (apply eval (.procedure closure) args span env')) ∧
      (env.Numbers args → env'.Numbers args →
        (View.renumbering env env').Ends (AtCall env env') (Value.Alike (.renumbering env env'))
          (apply eval (.procedure closure) args span env)
          (apply eval (.procedure closure) args span env')) := by
  constructor
  · intro env
    exact (call_exact rfl rfl rfl rfl closure args span).endsIn fun ends => ends.1.left
  intro env env' globals depth nesting
  constructor
  · intro next
    exact call_exact globals depth nesting next closure args span
  · intro known known'
    refine call_between (callers_renumbering known known' globals depth nesting) closure ?_ span
    exact List.forall₂_same.mpr fun v mem =>
      alike_renumbering known known' globals (List.mem_append_left _ mem)

/-- A procedure that gives the global `x`. -/
def givesGlobal : Closure where
  id := 0
  name := some "f"
  params := []
  body := .word "x" ⟨.first, .first⟩

/-- Inside a call that binds the name `x` for itself, where so many procedures have been made. -/
def hidingGlobal (hidden : Value) (made : Nat) : Environment where
  globals := [("x", .int 1), ("f", .procedure givesGlobal)]
  frames := [[("x", hidden)]]
  nextClosure := made + 1

theorem numbers_hidingGlobal (hidden : Value) (made : Nat) :
    (hidingGlobal hidden made).Numbers [] := by
  intro closure mem
  simp only [hidingGlobal, List.nil_append, List.map_cons, List.map_nil, List.mem_cons] at mem
  obtain none | ⟨⟨⟩⟩ | none := mem
  · cases none
  · exact Nat.succ_pos made
  · cases none

/-- Callers that have bound the name differently do not matter. -/
theorem call_past_hidden_global :
    Process.Agrees Eq
      (fun s t => (hidingGlobal .nil 0).Under s ∧ (hidingGlobal (.str "2") 0).Under t)
      (fun s t a b => AtCall (hidingGlobal .nil 0) (hidingGlobal (.str "2") 0) s t ∧ a = b)
      (apply eval (.procedure givesGlobal) [] ⟨.first, .first⟩ (hidingGlobal .nil 0))
      (apply eval (.procedure givesGlobal) [] ⟨.first, .first⟩ (hidingGlobal (.str "2") 0)) ∧
    (View.renumbering (hidingGlobal .nil 0) (hidingGlobal (.str "2") 5)).Ends
      (AtCall (hidingGlobal .nil 0) (hidingGlobal (.str "2") 5))
      (Value.Alike (.renumbering (hidingGlobal .nil 0) (hidingGlobal (.str "2") 5)))
      (apply eval (.procedure givesGlobal) [] ⟨.first, .first⟩ (hidingGlobal .nil 0))
      (apply eval (.procedure givesGlobal) [] ⟨.first, .first⟩ (hidingGlobal (.str "2") 5)) := by
  have same := (procedures_see_globals_only givesGlobal [] ⟨.first, .first⟩).2 (hidingGlobal .nil 0)
  constructor
  · exact (same (hidingGlobal (.str "2") 0) rfl rfl rfl).1 rfl
  · exact (same (hidingGlobal (.str "2") 5) rfl rfl rfl).2 (numbers_hidingGlobal _ _)
      (numbers_hidingGlobal _ _)

end ScriptSession.Script
