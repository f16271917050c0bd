import ScriptSession.Proofs.Script.Exact
import ScriptSession.Proofs.Script.Fitting

/-!
# Evaluation is bounded

Evaluation calls itself as `level` says, with no bound but the nesting that it counts. That count
rises with each call of itself, so a finite number of unfoldings is the whole of it
(`unfolded_eq`); it never passes its limit, nor does the number of active calls
(`reporting_throughout`), and at the end both are what they were (`eval_restores`). A statement that
was read is not as deep as that limit, so outside of every call the limit is not reached
(`reduceBeyond_eq`).
-/
namespace ScriptSession.Script

open Evaluates

/-! ## Environments that are counted -/

/-- Nothing may differ, and at every call nesting and depth are within these bounds. -/
abbrev View.within (most deepest : Nat) : View :=
  .exact fun s t => s = t ∧ s.nesting ≤ most ∧ s.depth ≤ deepest

/-- One environment with nesting `n` inside of `k` calls. -/
structure Counted (deepest n k : Nat) (s t : Environment) : Prop where
  same : s = t
  nesting : s.nesting = n
  depth : s.depth = k
  bound : k ≤ deepest

variable {most deepest n k : Nat}

theorem counted_self {env : Environment} (h : env.depth ≤ deepest) :
    Counted deepest env.nesting env.depth env env := ⟨rfl, rfl, rfl, h⟩

theorem keeps_counted (room : n ≤ most) :
    (View.within most deepest).Keeps (Counted deepest n k) where
  calls := by
    rintro s _ ⟨rfl, nesting, depth, bound⟩
    exact ⟨rfl, nesting ▸ room, depth ▸ bound⟩
  depth h := congrArg _ h.same
  lookup? := by
    rintro s _ ⟨rfl, -⟩ name
    cases s.lookup? name with
    | none => exact .none
    | some v => exact .some (v.alike_exact _)
  define := by
    rintro s _ ⟨rfl, nesting, depth, bound⟩ name v w values
    cases values.eq
    refine ⟨rfl, ?_, (depth_define s name v).trans depth, bound⟩
    rw [← nesting]
    unfold Environment.define
    split <;> rfl
  number h := congrArg _ h.same
  count := by
    rintro s _ ⟨rfl, nesting, depth, bound⟩
    exact ⟨rfl, nesting, depth, bound⟩

theorem layers_counted (most : Nat) (enough : maxCallDepth ≤ deepest) :
    (View.within most deepest).Layers (Counted deepest) most where
  keeps := keeps_counted
  nest := by
    rintro n k s _ ⟨rfl, nesting, depth, bound⟩
    exact ⟨rfl, congrArg (· + 1) nesting, depth, bound⟩
  unnest := by
    rintro n k s _ ⟨rfl, nesting, depth, bound⟩
    exact ⟨rfl, congrArg (· - 1) nesting, depth, bound⟩
  enter := by
    rintro n k s _ frame frame' ⟨rfl, nesting, depth, bound⟩ room frames
    have same : frame = frame' := forall₂_eq frames fun entry _ entry' alike =>
      Prod.ext alike.1 alike.2.eq
    exact ⟨by rw [same], nesting, congrArg (· + 1) depth, by omega⟩
  leave := by
    rintro n k s _ ⟨rfl, nesting, depth, bound⟩
    refine ⟨rfl, nesting, ?_, Nat.le_of_succ_le bound⟩
    exact (List.length_tail ..).trans (Nat.sub_eq_of_eq_add depth)

/-- Evaluations that agree in everything are the same from such an environment. -/
theorem Evaluates.Agrees.eq {m m' : Evaluates Value}
    (h : Agrees (.within most deepest) (Counted deepest n k) (Value.Alike (.within most deepest)) m m')
    {env : Environment} (counted : Counted deepest n k env env) : m env = m' env := by
  refine (h env env counted).eq And.left ?_
  rintro s t a b ⟨states, results⟩
  exact ⟨states.same, results.eq⟩

/-! ## Termination -/

/-- Evaluation as it calls itself, one level. -/
def level (eval : Expr → Evaluates Value) (e : Expr) : Evaluates Value := fun env =>
  if env.nesting ≥ maxEvalDepth then
    failAt s!"maximum evaluation depth ({maxEvalDepth}) exceeded" e.span env
  else nested (evalParts eval e) env

/-- So many levels, with something else below them. -/
def unfolded (beyond : Expr → Evaluates Value) : Nat → Expr → Evaluates Value
  | 0 => beyond
  | n + 1 => level (unfolded beyond n)

section

variable {V : View} {F : Nat → Nat → Correspondence} {eval : Expr → Evaluates Value}

/-- On the last level nothing is evaluated any more. -/
theorem level_agrees (layers : V.Layers F maxEvalDepth)
    (nesting : ∀ {env env'}, F n k env env' → env.nesting = n)
    (inner : n < maxEvalDepth → ∀ k e e', e.Like V.places e' →
      Agrees V (F (n + 1) k) (Value.Alike V) (eval e) (evalWithin (maxEvalDepth - (n + 1)) e'))
    {e e' : Expr} (h : e.Like V.places e') :
    Agrees V (F n k) (Value.Alike V) (level eval e) (evalWithin (maxEvalDepth - n) e') := by
  intro env env' envs
  unfold level
  rw [nesting envs]
  by_cases full : n ≥ maxEvalDepth
  · rw [if_pos full, Nat.sub_eq_zero_of_le full]
    exact Agrees.failAt _ h.span env env' envs
  · have room : n < maxEvalDepth := Nat.lt_of_not_le full
    have one : maxEvalDepth - n = maxEvalDepth - (n + 1) + 1 := by omega
    rw [if_neg full, one]
    exact layers.level room h (fun _ _ _ item => inner room k _ _ item)
      (fun _ _ body => inner room (k + 1) _ _ body) env env' envs

end

/-- The recursion that the evaluation is. -/
theorem eval_eq_level : eval = level eval := by
  funext e env
  have enough : maxCallDepth ≤ env.depth + maxCallDepth := Nat.le_add_left _ _
  have layers := layers_counted maxEvalDepth enough
  have counted := counted_self (Nat.le_add_right env.depth maxCallDepth)
  refine (Agrees.eq (level_agrees layers Counted.nesting ?_ (e.like_self fun _ _ => rfl))
    counted).symm
  intro room k e e' h s t inner
  unfold eval
  rw [inner.nesting]
  exact evalWithin_agrees layers (by omega) k h s t inner

theorem unfolded_agrees (beyond : Expr → Evaluates Value) (enough : maxCallDepth ≤ deepest)
    {j n k : Nat} (deep : maxEvalDepth ≤ n + j) {e e' : Expr} (h : e.Like Eq e') :
    Agrees (.within maxEvalDepth deepest) (Counted deepest n k)
      (Value.Alike (.within maxEvalDepth deepest)) (unfolded beyond (j + 1) e)
      (evalWithin (maxEvalDepth - n) e') := by
  have layers := layers_counted maxEvalDepth enough
  induction j generalizing n k e e' with
  | zero => exact level_agrees layers Counted.nesting (fun room => by omega) h
  | succ j ih =>
    exact level_agrees layers Counted.nesting (fun _ _ _ _ like => ih (by omega) like) h

/-- However the recursion would go on, it does not get further. -/
theorem unfolded_eq (beyond : Expr → Evaluates Value) {j : Nat} {env : Environment}
    (deep : maxEvalDepth ≤ env.nesting + j) (e : Expr) :
    unfolded beyond (j + 1) e env = eval e env := by
  have enough : maxCallDepth ≤ env.depth + maxCallDepth := Nat.le_add_left _ _
  have same := unfolded_agrees beyond enough (k := env.depth) deep (e.like_self fun _ _ => rfl)
  exact same.eq (counted_self (Nat.le_add_right _ _))

/-! ## Bounds -/

/-- Evaluation that says the text whenever it has come to an expression, before that is counted and
after. -/
def reportingWithin (text : String) : Nat → Expr → Evaluates Value
  | 0, e => do
    announce (some text)
    failAt s!"maximum evaluation depth ({maxEvalDepth}) exceeded" e.span
  | room + 1, e => do
    announce (some text)
    nested do
      announce (some text)
      evalParts (reportingWithin text room) e

def reporting (text : String) (e : Expr) : Evaluates Value := fun env =>
  reportingWithin text (maxEvalDepth - env.nesting) e env

theorem says_reportingWithin (text : String) (room : Nat) (e : Expr) :
    Relates (Announces text) (reportingWithin text room e) (evalWithin room e) := by
  induction room generalizing e with
  | zero => exact announces_note (closed_announces.failure _ _)
  | succ room ih =>
    have calls : CallsRelate (Announces text) none none := calls_announce_if fun h => h
    have parts := closed_evalParts closed_announces calls ih e
    rw [evalPartsAnnouncing_none, evalPartsAnnouncing_none] at parts
    exact announces_note (closed_announces.nested (announces_note parts))

/-- Besides, it does what evaluation does. -/
theorem says_reporting (text : String) (e : Expr) (env : Environment) :
    (reporting text e env).Says text (eval e env) := says_reportingWithin text _ e env

theorem announce_agrees {V : View} {S : Correspondence} (shows : V.Shows S) (text : String) :
    Agrees V S (· = ·) (announce (some text)) (announce (some text)) :=
  Agrees.ask shows (.emit (.console .log text))

theorem reportingWithin_agrees (text : String) (enough : maxCallDepth ≤ deepest) {room n k : Nat}
    (bound : n + room ≤ most) {e e' : Expr} (h : e.Like Eq e') :
    Agrees (.within most deepest) (Counted deepest n k) (Value.Alike (.within most deepest))
      (reportingWithin text room e) (reportingWithin text room e') := by
  have layers := layers_counted most enough
  induction room generalizing n k e e' with
  | zero =>
    have shows := (layers.keeps (n := n) (k := k) bound).toShows
    exact Agrees.bind (announce_agrees shows text) fun _ _ _ => Agrees.failAt _ h.span
  | succ room ih =>
    have deeper : n + 1 + room ≤ most := by omega
    have shows := (layers.keeps (n := n) (k := k) (by omega)).toShows
    have keeps := layers.keeps (n := n + 1) (k := k) (by omega)
    have parts := evalParts_agrees keeps h (fun _ _ _ item => ih deeper item)
      (layers.enters fun _ _ body => ih deeper body)
    refine Agrees.bind (announce_agrees shows text) fun _ _ _ => layers.nested ?_
    exact Agrees.bind (announce_agrees keeps.toShows text) fun _ _ _ => parts

/-- Neither count passes its limit. -/
theorem reporting_throughout (text : String) (e : Expr) {env : Environment}
    (nesting : env.nesting ≤ maxEvalDepth) (depth : env.depth ≤ maxCallDepth) :
    (reporting text e env).Throughout fun s => s.nesting ≤ maxEvalDepth ∧ s.depth ≤ maxCallDepth := by
  have bound : env.nesting + (maxEvalDepth - env.nesting) ≤ maxEvalDepth := by omega
  have agrees := reportingWithin_agrees text (Nat.le_refl maxCallDepth) (k := env.depth) bound
    (e.like_self fun _ _ => rfl)
  refine (agrees env env (counted_self depth)).throughout And.right ?_
  rintro s _ _ _ ⟨⟨-, atNesting, atDepth, -⟩, -⟩
  exact ⟨atNesting ▸ nesting, atDepth ▸ depth⟩

/-- Both are what they were, however the evaluation ends. -/
theorem eval_restores (e : Expr) (env : Environment) :
    (eval e env).EndsIn fun s => s.nesting = env.nesting ∧ s.depth = env.depth := by
  have enough : maxCallDepth ≤ env.depth + maxCallDepth := Nat.le_add_left _ _
  have layers := layers_counted (env.nesting + maxEvalDepth) enough
  have bound : env.nesting + (maxEvalDepth - env.nesting) ≤ env.nesting + maxEvalDepth := by omega
  have agrees := evalWithin_agrees layers bound env.depth (e.like_self fun _ _ => rfl)
  refine (agrees env env (counted_self (Nat.le_add_right _ _))).endsIn ?_
  rintro s _ _ _ ⟨⟨-, nesting, depth, -⟩, -⟩
  exact ⟨nesting, depth⟩

/-! ## Statements -/

/-- Evaluation that does something else where it gets too deep outside of every call. -/
def evalBeyond (beyond : Expr → Evaluates Value) : Nat → Expr → Evaluates Value
  | 0, e => fun env =>
    if env.depth = 0 then beyond e env
    else failAt s!"maximum evaluation depth ({maxEvalDepth}) exceeded" e.span env
  | room + 1, e => nested (evalParts (evalBeyond beyond room) e)

def evalOr (beyond : Expr → Evaluates Value) (e : Expr) : Evaluates Value := fun env =>
  evalBeyond beyond (maxEvalDepth - env.nesting) e env

/-- Reduction by such an evaluation. -/
def reduceBeyond (beyond : Expr → Evaluates Value) (env : Environment) (s : Statement) :
    Process Environment Outcome :=
  let env := env.atTopLevel
  let result := match bareCallee? env s with
    | some callee => apply (evalOr beyond) callee [] s.expr.span env
    | none => evalOr beyond s.expr env
  result.bind fun env result => .done env (Outcome.ofResult s.expr.span result)

/-- Inside of a call, or with an expression that is not too deep, nothing changes. -/
theorem evalBeyond_agrees (beyond : Expr → Evaluates Value) (enough : maxCallDepth ≤ deepest)
    {room n k : Nat} (bound : n + room ≤ most) {e e' : Expr} (h : e.Like Eq e')
    (fits : k ≠ 0 ∨ e.Fits room) :
    Agrees (.within most deepest) (Counted deepest n k) (Value.Alike (.within most deepest))
      (evalBeyond beyond room e) (evalWithin room e') := by
  have layers := layers_counted most enough
  induction room generalizing n k e e' with
  | zero =>
    intro env env' envs
    obtain called | none := fits
    · have inside : env.depth ≠ 0 := envs.depth ▸ called
      simp only [evalBeyond, if_neg inside]
      exact Agrees.failAt _ h.span env env' envs
    · exact none.elim
  | succ room ih =>
    have deeper : n + 1 + room ≤ most := by omega
    refine layers.level (by omega) h (fun item mem _ like => ?_) fun _ _ body =>
      ih deeper body (.inl k.succ_ne_zero)
    exact ih deeper like (fits.imp_right fun deep => deep item mem)

theorem evalOr_agrees (beyond : Expr → Evaluates Value) {e e' : Expr} (h : e.Like Eq e')
    (fits : k ≠ 0 ∨ e.Fits maxEvalDepth) :
    Agrees (.within maxEvalDepth maxCallDepth) (Counted maxCallDepth 0 k)
      (Value.Alike (.within maxEvalDepth maxCallDepth)) (evalOr beyond e) (eval e') := by
  rintro env _ ⟨rfl, nesting, depth, bound⟩
  have room : maxEvalDepth - env.nesting = maxEvalDepth := by rw [nesting, Nat.sub_zero]
  have all : 0 + maxEvalDepth ≤ maxEvalDepth := Nat.le_of_eq (Nat.zero_add _)
  unfold evalOr eval
  rw [room]
  exact evalBeyond_agrees beyond (Nat.le_refl _) all h fits env env ⟨rfl, nesting, depth, bound⟩

/-- A statement that is not too deep has no use for what lies beyond. -/
theorem reduceBeyond_eq (beyond : Expr → Evaluates Value) (env : Environment) {s : Statement}
    (fits : s.expr.Fits maxEvalDepth) : reduceBeyond beyond env s = reduce env s := by
  have layers := layers_counted maxEvalDepth (Nat.le_refl maxCallDepth)
  have counted : Counted maxCallDepth 0 0 env.atTopLevel env.atTopLevel :=
    ⟨rfl, rfl, rfl, Nat.zero_le _⟩
  unfold reduceBeyond reduce
  dsimp only
  congr 1
  cases bareCallee? env.atTopLevel s with
  | some callee =>
    have shows := (layers.keeps (n := 0) (k := 0) (Nat.zero_le _)).toShows
    have enters := layers.enters (n := 0) (k := 0) fun _ _ body =>
      evalOr_agrees beyond body (.inl Nat.one_ne_zero)
    exact (apply_agrees shows enters (callee.alike_exact _) .nil rfl).eq counted
  | none => exact (evalOr_agrees beyond (s.expr.like_self fun _ _ => rfl) (.inr fits)).eq counted

/-- Evaluation terminates within its bounds, comes back to where it started, and is too deep only
inside of a call. -/
theorem evaluation_bounded :
    eval = level eval ∧
    (∀ beyond j e env, maxEvalDepth ≤ env.nesting + j →
      unfolded beyond (j + 1) e env = eval e env) ∧
    (∀ text e env, env.nesting ≤ maxEvalDepth → env.depth ≤ maxCallDepth →
      (reporting text e env).Says text (eval e env) ∧
      ((reporting text e env).Throughout fun s =>
        s.nesting ≤ maxEvalDepth ∧ s.depth ≤ maxCallDepth) ∧
      (eval e env).EndsIn fun s => s.nesting = env.nesting ∧ s.depth = env.depth) ∧
    ∀ beyond tokens statements env, parse tokens = .ok statements → ∀ s ∈ statements,
      reduceBeyond beyond env s = reduce env s := by
  refine ⟨eval_eq_level, fun beyond j e env deep => unfolded_eq beyond deep e, ?_, ?_⟩
  · intro text e env nesting depth
    exact ⟨says_reporting text e env, reporting_throughout text e nesting depth, eval_restores e env⟩
  · intro beyond tokens statements env ok s mem
    exact reduceBeyond_eq beyond env ((fits_of_parse ok s mem).mono (by decide))

/-- Inside of a call, with room for one more level. -/
def almostFull : Environment where
  frames := [[]]
  nesting := 255

def someSpan : Span := ⟨.first, .first⟩

/-- A list whose head is on the level after the last. -/
def callOfF : Expr := .list (.word "f" someSpan) [] someSpan

def tokensInGroup : List Token :=
  [⟨.openParen, someSpan⟩, ⟨.int 1, someSpan⟩, ⟨.closeParen, someSpan⟩]

theorem bounded_almost_full :
    unfolded (fun _ => stop .exit) 2 callOfF almostFull = eval callOfF almostFull ∧
    ((reporting "here" callOfF almostFull).Says "here" (eval callOfF almostFull) ∧
      ((reporting "here" callOfF almostFull).Throughout fun s =>
        s.nesting ≤ maxEvalDepth ∧ s.depth ≤ maxCallDepth) ∧
      (eval callOfF almostFull).EndsIn fun s => s.nesting = 255 ∧ s.depth = 1) ∧
    ∃ s, parse tokensInGroup = .ok [s] ∧
      reduceBeyond (fun _ => stop .exit) almostFull s = reduce almostFull s := by
  obtain ⟨-, finite, bounds, outside⟩ := evaluation_bounded
  refine ⟨finite _ 1 callOfF almostFull (by decide), ?_, ⟨.list (.int 1 someSpan) [] someSpan⟩, rfl, ?_⟩
  · exact bounds "here" callOfF almostFull (by decide) (by decide)
  · exact outside _ tokensInGroup _ almostFull rfl _ List.mem_cons_self

end ScriptSession.Script
