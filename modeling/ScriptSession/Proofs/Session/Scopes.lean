import Mathlib.Data.List.Perm.Subperm
import ScriptSession.Console

/-!
# Scopes

A scope is a capture that can be released. It remembers nothing but a depth, and its release cuts the
installed collectors down to it; a scope may also leak, and then nobody releases it. That the release
restores what was installed before the capture rests on two facts that hold while the scope is held
(`Scoped.Rests`): what was installed before is still there, below the scope's own collector, and every
later scope begins above it. Both need scopes to be released from the innermost one outwards
(`Scoped.Permits`).

Every fragment has at most one keeper, the collector that was the innermost one when it was emitted
(`Scoped.entry?`), and a collector's content grows by what it is the keeper of (`kept_step`). So what
a collector gives at its end can be told from the run alone, and no two collectors give the same
message (`tidy_of_permits`).
-/
namespace ScriptSession.Console

/-- What is done with a console, its collectors and its scopes. Both are numbered in the order in
which they come to be. -/
inductive Action where
  | collect (channel : Option Channel)
  | capture (k : Nat)
  | emit (level : Level) (text : String)
  | pushResult (k : Nat) (text : String)
  /-- The scope is never released. -/
  | leak (n : Nat)
  | release (n : Nat)
  | receive (k : Nat)
  | hangUp (k : Nat)
  | finish (k : Nat)

/-- A scope is held until it is released or leaked. -/
structure Scope where
  depth : Nat
  held : Bool := true

/-- A console with the scopes of its captures. -/
structure Scoped where
  console : Console := {}
  scopes : List Scope := []

namespace Scoped

def step (s : Scoped) : Action → Scoped
  | .collect channel => { s with console := (s.console.addCollector channel).1 }
  | .capture k => ⟨(s.console.capture k).1, s.scopes ++ [{ depth := (s.console.capture k).2 }]⟩
  | .emit level text => { s with console := s.console.emit (.console level text) }
  | .pushResult k text => { s with console := s.console.pushResult k text }
  | .leak n => { s with scopes := s.scopes.modify n ({ · with held := false }) }
  | .release n =>
    match s.scopes[n]? with
    | some scope =>
      ⟨s.console.release scope.depth, s.scopes.modify n ({ · with held := false })⟩
    | none => s
  | .receive k => { s with console := (s.console.receive? k).2 }
  | .hangUp k => { s with console := s.console.hangUp k }
  | .finish k => { s with console := (s.console.finish k).2 }

def after (s : Scoped) (actions : List Action) : Scoped := actions.foldl step s

def Holds (s : Scoped) (n : Nat) : Prop := (s.scopes[n]?.any (·.held)) = true

instance (s : Scoped) (n : Nat) : Decidable (s.Holds n) := inferInstanceAs (Decidable (_ = _))

/-- A collector is used until it is finished, a scope is left once, and it is released only when no
later scope is held any more. -/
def Permits (s : Scoped) : Action → Prop
  | .capture k | .pushResult k _ | .finish k => (s.console.unfinished? k).isSome
  | .leak n => s.Holds n
  | .release n => s.Holds n ∧ ∀ m < s.scopes.length, n < m → ¬s.Holds m
  | .collect _ | .emit .. | .receive _ | .hangUp _ => True

instance (s : Scoped) : (a : Action) → Decidable (s.Permits a)
  | .capture k | .pushResult k _ | .finish k =>
    inferInstanceAs (Decidable ((s.console.unfinished? k).isSome = true))
  | .leak n => inferInstanceAs (Decidable (s.Holds n))
  | .release n =>
    inferInstanceAs (Decidable (s.Holds n ∧ ∀ m < s.scopes.length, n < m → ¬s.Holds m))
  | .collect _ | .emit .. | .receive _ | .hangUp _ => inferInstanceAs (Decidable True)

def PermitsAll (s : Scoped) : List Action → Prop
  | [] => True
  | a :: rest => s.Permits a ∧ (s.step a).PermitsAll rest

instance decidablePermitsAll (s : Scoped) : (actions : List Action) → Decidable (s.PermitsAll actions)
  | [] => inferInstanceAs (Decidable True)
  | a :: rest =>
    have := (s.step a).decidablePermitsAll rest
    inferInstanceAs (Decidable (s.Permits a ∧ (s.step a).PermitsAll rest))

/-! ## What a run produces -/

/-- The fragment that an action emits, with its keeper: a result's own collector, a message's
innermost one. -/
def entry? (s : Scoped) : Action → Option (Option Nat × Fragment)
  | .emit level text => some (s.console.installed.head?, .console level text)
  | .pushResult k text => some (some k, .result text)
  | _ => none

/-- All that is emitted in a run, in order, each with its keeper. -/
def produced (s : Scoped) : List Action → List (Option Nat × Fragment)
  | [] => []
  | a :: rest => (s.entry? a).toList ++ (s.step a).produced rest

/-- What an action takes out of the console: a finished collector's content, with its number. -/
def gift? (s : Scoped) : Action → Option (Nat × Collected)
  | .finish k => some (k, (s.console.finish k).1)
  | _ => none

def given (s : Scoped) : List Action → List (Nat × Collected)
  | [] => []
  | a :: rest => (s.gift? a).toList ++ (s.step a).given rest

end Scoped

/-- The fragments with this keeper. -/
def entrusted (k : Nat) (entries : List (Option Nat × Fragment)) : List Fragment :=
  (entries.filter (·.1 = some k)).map (·.2)

theorem entrusted_append (k : Nat) (xs ys : List (Option Nat × Fragment)) :
    entrusted k (xs ++ ys) = entrusted k xs ++ entrusted k ys := by
  simp [entrusted]

open Scoped in
/-- What scopes and collectors promise, of a run on a new console. -/
structure Tidy (actions : List Action) : Prop where
  /-- A release leaves installed what was installed right before the scope's capture. -/
  restores : ∀ before k between later n, n = (after {} before).scopes.length →
    actions = before ++ .capture k :: between ++ .release n :: later →
    (after {} (before ++ .capture k :: between ++ [.release n])).console.installed =
      (after {} before).console.installed
  /-- A collector gives its own results and the messages of the time when it was the innermost one,
  in order. -/
  collects : ∀ before k later, actions = before ++ .finish k :: later →
    ((after {} before).console.finish k).1 =
      ⟨Fragment.merged (entrusted k (produced {} before)), entrusted k (produced {} before)⟩
  /-- Whatever is given was emitted, and nothing is given twice. -/
  apart : ((given {} actions).flatMap (·.2.fragments)).Subperm ((produced {} actions).map (·.2))

/-! ## One operation -/

section

variable {c : Console} {k : Nat}

@[simp] theorem emit_installed (c : Console) (f : Fragment) : (c.emit f).installed = c.installed := by
  unfold emit
  split <;> rfl

@[simp] theorem receive_installed (c : Console) (k : Nat) :
    (c.receive? k).2.installed = c.installed := by
  unfold receive?
  split
  · split <;> rfl
  · rfl

@[simp] theorem emit_size (c : Console) (f : Fragment) :
    (c.emit f).collectors.size = c.collectors.size := by
  unfold emit
  split
  · rfl
  · exact Array.size_modify

@[simp] theorem receive_size (c : Console) (k : Nat) :
    (c.receive? k).2.collectors.size = c.collectors.size := by
  unfold receive?
  split
  · split
    · exact Array.size_modify
    · rfl
  · rfl

/-- What a collector keeps so far. -/
def kept (c : Console) (k : Nat) : List Fragment :=
  match c.collector? k with
  | some collector => collector.fragments.toList
  | none => []

theorem finish_fst (c : Console) (k : Nat) :
    (c.finish k).1 = ⟨Fragment.merged (c.kept k), c.kept k⟩ := rfl

theorem kept_modify_other (c : Console) {j : Nat} (g : Collector → Collector) (other : j ≠ k) :
    kept { c with collectors := c.collectors.modify j g } k = c.kept k := by
  unfold kept collector?
  rw [Array.getElem?_modify, if_neg other]

theorem kept_modify_same (c : Console) (j k : Nat) {g : Collector → Collector}
    (same : ∀ x, (g x).fragments = x.fragments) :
    kept { c with collectors := c.collectors.modify j g } k = c.kept k := by
  by_cases here : j = k
  · unfold kept collector?
    rw [Array.getElem?_modify, if_pos here]
    cases c.collectors[k]? with
    | none => rfl
    | some x => exact congrArg Array.toList (same x)
  · exact c.kept_modify_other g here

/-- Whoever gets a fragment keeps it, and nobody else does. -/
theorem kept_modify_push {j : Nat} (there : j < c.collectors.size) {g : Collector → Collector}
    {f : Fragment} (pushed : ∀ x, (g x).fragments = x.fragments.push f) (k : Nat) :
    kept { c with collectors := c.collectors.modify j g } k =
      c.kept k ++ entrusted k [(some j, f)] := by
  by_cases own : j = k
  · have grows : kept { c with collectors := c.collectors.modify j g } k = c.kept k ++ [f] := by
      subst own
      unfold kept collector?
      rw [Array.getElem?_modify, if_pos rfl, Array.getElem?_eq_getElem there]
      exact (congrArg Array.toList (pushed _)).trans Array.toList_push
    simpa [entrusted, own] using grows
  · simpa [entrusted, own] using c.kept_modify_other g own

theorem kept_receive (c : Console) (j k : Nat) : (c.receive? j).2.kept k = c.kept k := by
  unfold receive?
  split
  · split
    · exact c.kept_modify_same j k fun _ => rfl
    · rfl
  · rfl

theorem kept_emit (sound : ∀ j ∈ c.installed, j < c.collectors.size) (f : Fragment) (k : Nat) :
    (c.emit f).kept k = c.kept k ++ entrusted k [(c.installed.head?, f)] := by
  unfold emit
  split
  · rename_i none
    rw [none]
    exact (List.append_nil _).symm
  · rename_i j below innermost
    rw [innermost]
    apply kept_modify_push
    · exact sound j (by rw [innermost]; exact List.mem_cons_self)
    · exact fun _ => rfl

/-- A new collector is empty. -/
theorem kept_addCollector (c : Console) (channel : Option Channel) (k : Nat) :
    (c.addCollector channel).1.kept k = c.kept k := by
  unfold kept collector? addCollector
  dsimp only
  rw [Array.getElem?_push]
  by_cases new : k = c.collectors.size
  · rw [if_pos new, new, Array.getElem?_eq_none (Nat.le_refl _)]
  · rw [if_neg new]

theorem size_of_unfinished (h : (c.unfinished? k).isSome) : k < c.collectors.size := by
  unfold unfinished? collector? at h
  by_contra absent
  rw [Array.getElem?_eq_none (Nat.le_of_not_lt absent)] at h
  cases h

/-- A collector that gave away what it kept. -/
def Finished (c : Console) (k : Nat) : Prop := ∃ x, c.collector? k = some x ∧ x.finished = true

theorem Finished.modify (h : c.Finished k) (j : Nat) {g : Collector → Collector}
    (stays : ∀ x, x.finished = true → (g x).finished = true) :
    Finished { c with collectors := c.collectors.modify j g } k := by
  obtain ⟨x, there, finished⟩ := h
  unfold collector? at there
  by_cases here : j = k
  · refine ⟨g x, ?_, stays x finished⟩
    unfold collector?
    rw [Array.getElem?_modify, if_pos here, there]
    rfl
  · refine ⟨x, ?_, finished⟩
    unfold collector?
    rw [Array.getElem?_modify, if_neg here, there]

theorem Finished.emit (h : c.Finished k) (f : Fragment) : (c.emit f).Finished k := by
  unfold Console.emit
  split
  · exact h
  · exact h.modify _ fun _ finished => finished

theorem Finished.receive (h : c.Finished k) (j : Nat) : (c.receive? j).2.Finished k := by
  unfold receive?
  split
  · split
    · exact h.modify j fun _ finished => finished
    · exact h
  · exact h

theorem Finished.addCollector (h : c.Finished k) (channel : Option Channel) :
    (c.addCollector channel).1.Finished k := by
  obtain ⟨x, there, finished⟩ := h
  refine ⟨x, ?_, finished⟩
  unfold collector? at there ⊢
  have old := (Array.getElem?_eq_some_iff.mp there).1
  exact (Array.getElem?_push_lt old).trans ((Array.getElem?_eq_getElem old).symm.trans there)

theorem finished_finish (there : k < c.collectors.size) : (c.finish k).2.Finished k := by
  refine ⟨{ c.collectors[k] with fragments := #[], finished := true }, ?_, rfl⟩
  unfold finish collector?
  dsimp only
  rw [Array.getElem?_modify, if_pos rfl, Array.getElem?_eq_getElem there]
  rfl

theorem Finished.not_unfinished (h : c.Finished k) : ¬(c.unfinished? k).isSome := by
  obtain ⟨x, there, finished⟩ := h
  unfold unfinished?
  simp [there, finished]

end

namespace Scoped

variable {s : Scoped} {n k : Nat} {ground : List Nat} {a : Action} {actions : List Action}

/-! ## Releases -/

/-- Of a scope that was captured when `ground` was installed: while it is held, `ground` is still there,
below the scope's collector, and every later scope begins above that. -/
structure Rests (s : Scoped) (n : Nat) (ground : List Nat) : Prop where
  captured : n < s.scopes.length
  depth : ∀ scope, s.scopes[n]? = some scope → scope.held = true → scope.depth = ground.length + 1
  below : s.Holds n → ∃ k, k :: ground <:+ s.console.installed
  above : s.Holds n → ∀ m later, n < m → s.scopes[m]? = some later → ground.length + 1 < later.depth

theorem holds_iff : s.Holds n ↔ ∃ scope, s.scopes[n]? = some scope ∧ scope.held = true := by
  unfold Holds
  cases s.scopes[n]? <;> simp

theorem step_release {scope : Scope} (found : s.scopes[n]? = some scope) : s.step (.release n) =
    ⟨s.console.release scope.depth, s.scopes.modify n ({ · with held := false })⟩ := by
  simp only [step, found]

/-- Cutting a list to a length keeps the ends that are no longer than that. -/
theorem suffix_drop {α : Type} {short long : List α} (h : short <:+ long) {length : Nat}
    (fits : short.length ≤ length) : short <:+ long.drop (long.length - length) := by
  obtain ⟨front, rfl⟩ := h
  rw [List.length_append, List.drop_append_of_le_length (by omega)]
  exact List.suffix_append _ _

/-- The new scope is the last one. -/
theorem scope_of_capture {k m : Nat} {scope : Scope}
    (found : (s.step (.capture k)).scopes[m]? = some scope) :
    s.scopes[m]? = some scope ∨
      m = s.scopes.length ∧ scope.depth = s.console.installed.length + 1 := by
  change (s.scopes ++ [_])[m]? = some scope at found
  by_cases old : m < s.scopes.length
  · exact .inl ((List.getElem?_append_left old).symm.trans found)
  · rw [List.getElem?_append_right (Nat.le_of_not_lt old), List.getElem?_singleton] at found
    split at found
    · cases found
      exact .inr ⟨by omega, rfl⟩
    · cases found

theorem rests_capture (s : Scoped) (k : Nat) :
    (s.step (.capture k)).Rests s.scopes.length s.console.installed where
  captured := by simp [step]
  depth scope there _ := by
    rcases scope_of_capture there with old | ⟨-, depth⟩
    · exact absurd (List.getElem?_eq_some_iff.mp old).1 (Nat.lt_irrefl _)
    · exact depth
  below _ := ⟨k, List.suffix_refl _⟩
  above _ m later above there := by
    rcases scope_of_capture there with old | ⟨last, -⟩
    · exact absurd (List.getElem?_eq_some_iff.mp old).1 (by omega)
    · omega

namespace Rests

theorem congr {s' : Scoped} (h : s.Rests n ground)
    (installed : s'.console.installed = s.console.installed) (scopes : s'.scopes = s.scopes) :
    s'.Rests n ground := by
  obtain ⟨console, _⟩ := s'
  dsimp only at installed scopes
  subst scopes
  exact ⟨h.captured, h.depth, installed ▸ h.below, h.above⟩

theorem capture (h : s.Rests n ground) (k : Nat) : (s.step (.capture k)).Rests n ground := by
  have same : (s.step (.capture k)).scopes[n]? = s.scopes[n]? :=
    List.getElem?_append_left h.captured
  have before : (s.step (.capture k)).Holds n → s.Holds n := by
    unfold Holds
    rw [same]
    exact id
  constructor
  · exact Nat.lt_of_lt_of_le h.captured (by simp [step])
  · rw [same]
    exact h.depth
  · intro holds
    obtain ⟨j, below⟩ := h.below (before holds)
    exact ⟨j, below.trans (List.suffix_cons k _)⟩
  · intro holds m later above found
    rcases scope_of_capture found with old | ⟨-, depth⟩
    · exact h.above (before holds) m later above old
    · obtain ⟨j, below⟩ := h.below (before holds)
      have within := below.length_le
      rw [List.length_cons] at within
      omega

/-- A scope that is let go, and what is done with it, concerns another one only if it takes away
what is below that one's collector. -/
theorem letGo (h : s.Rests n ground) (m : Nat) (console : Console)
    (keeps : m ≠ n → s.Holds n → ∀ k, k :: ground <:+ s.console.installed →
      k :: ground <:+ console.installed) :
    Rests ⟨console, s.scopes.modify m ({ · with held := false })⟩ n ground := by
  have before : Holds ⟨console, s.scopes.modify m ({ · with held := false })⟩ n →
      m ≠ n ∧ s.Holds n := by
    unfold Holds
    rw [List.getElem?_modify]
    by_cases same : m = n <;> cases s.scopes[n]? <;> simp [same]
  constructor
  · simpa using h.captured
  · intro scope there held
    rw [List.getElem?_modify] at there
    obtain ⟨base, found, rfl⟩ := Option.map_eq_some_iff.mp there
    by_cases same : m = n
    · simp [same] at held
    · simp only [same, ↓reduceIte] at held ⊢
      exact h.depth base found held
  · intro holds
    obtain ⟨other, held⟩ := before holds
    obtain ⟨k, below⟩ := h.below held
    exact ⟨k, keeps other held k below⟩
  · intro holds i later above there
    rw [List.getElem?_modify] at there
    obtain ⟨base, found, rfl⟩ := Option.map_eq_some_iff.mp there
    have deep := h.above (before holds).2 i base above found
    split <;> exact deep

theorem release (h : s.Rests n ground) {m : Nat} (permits : s.Permits (.release m)) :
    (s.step (.release m)).Rests n ground := by
  obtain ⟨holds, alone⟩ := permits
  obtain ⟨scope, found, -⟩ := holds_iff.mp holds
  rw [step_release found]
  apply h.letGo
  intro other held k below
  -- the scope released is not below this one, which is still held
  have above : n < m := by
    by_contra notAbove
    exact alone n h.captured (by omega) held
  have deep := h.above held m scope above found
  apply suffix_drop below
  rw [List.length_cons]
  omega

/-- A release takes away the scope's collector and what came on top of it. -/
theorem restores (h : s.Rests n ground) (holds : s.Holds n) :
    (s.step (.release n)).console.installed = ground := by
  obtain ⟨scope, there, held⟩ := holds_iff.mp holds
  obtain ⟨k, below⟩ := h.below holds
  have cut : ground <:+ s.console.installed := (List.suffix_cons k ground).trans below
  rw [step_release there]
  unfold Console.release Console.depth
  rw [h.depth scope there held]
  exact (List.suffix_iff_eq_drop.mp cut).symm

end Rests

theorem rests_step (permits : s.Permits a) (h : s.Rests n ground) : (s.step a).Rests n ground := by
  cases a with
  | capture k => exact h.capture k
  | release m => exact h.release permits
  | leak m => exact h.letGo m _ fun _ _ _ below => below
  | emit level text => exact h.congr (emit_installed ..) rfl
  | receive k => exact h.congr (receive_installed ..) rfl
  | collect | pushResult | hangUp | finish => exact h.congr rfl rfl

theorem rests_after (permits : s.PermitsAll actions) (h : s.Rests n ground) :
    (s.after actions).Rests n ground := by
  induction actions generalizing s with
  | nil => exact h
  | cons a rest ih =>
    obtain ⟨first, later⟩ := permits
    exact ih later (rests_step first h)

theorem permitsAll_append {xs ys : List Action} :
    s.PermitsAll (xs ++ ys) ↔ s.PermitsAll xs ∧ (s.after xs).PermitsAll ys := by
  induction xs generalizing s with
  | nil => exact ⟨fun h => ⟨trivial, h⟩, And.right⟩
  | cons a rest ih => exact (and_congr_right fun _ => ih).trans and_assoc.symm

theorem after_append (s : Scoped) (xs ys : List Action) : s.after (xs ++ ys) = (s.after xs).after ys :=
  List.foldl_append

/-- Whatever happens in between, a release restores what was installed before the capture. -/
theorem release_restores {between later : List Action}
    (permits : s.PermitsAll (.capture k :: between ++ .release s.scopes.length :: later)) :
    (s.after (.capture k :: between ++ [.release s.scopes.length])).console.installed =
      s.console.installed := by
  obtain ⟨inside, release, -⟩ := permitsAll_append.mp permits
  rw [after_append]
  have rests := rests_after inside.2 (rests_capture s k)
  exact rests.restores release.1

/-! ## Contents -/

/-- Every installed collector is there. -/
def Sound (s : Scoped) : Prop := ∀ k ∈ s.console.installed, k < s.console.collectors.size

theorem Sound.congr {s' : Scoped} (h : s.Sound)
    (installed : s'.console.installed = s.console.installed)
    (size : s'.console.collectors.size = s.console.collectors.size) : s'.Sound := by
  unfold Sound
  rw [installed, size]
  exact h

theorem sound_step (permits : s.Permits a) (sound : s.Sound) : (s.step a).Sound := by
  cases a with
  | collect channel =>
    intro k mem
    have bound := sound k mem
    simp only [step, addCollector, Array.size_push]
    omega
  | capture k =>
    intro j mem
    rcases List.mem_cons.mp mem with rfl | before
    · exact size_of_unfinished permits
    · exact sound j before
  | release n =>
    obtain ⟨scope, found, -⟩ := holds_iff.mp permits.1
    rw [step_release found]
    intro k mem
    exact sound k (List.mem_of_mem_drop mem)
  | leak n => exact sound
  | emit level text => exact sound.congr (emit_installed ..) (emit_size ..)
  | receive k => exact sound.congr (receive_installed ..) (receive_size ..)
  | pushResult | hangUp | finish => exact sound.congr rfl Array.size_modify

/-- A collector grows by what it is the keeper of, until it is finished. -/
theorem kept_step (sound : s.Sound) (permits : s.Permits a) (other : a ≠ .finish k) :
    (s.step a).console.kept k = s.console.kept k ++ entrusted k (s.entry? a).toList := by
  have unchanged {s' : Scoped} (same : s'.console.kept k = s.console.kept k) :
      s'.console.kept k = s.console.kept k ++ entrusted k [] := same.trans (List.append_nil _).symm
  cases a with
  | emit level text => exact kept_emit sound _ k
  | pushResult j text => exact kept_modify_push (size_of_unfinished permits) (fun _ => rfl) k
  | collect channel => exact unchanged (kept_addCollector ..)
  | receive j => exact unchanged (kept_receive ..)
  | hangUp j =>
    apply unchanged
    apply kept_modify_same
    exact fun _ => rfl
  | finish j =>
    apply unchanged
    apply kept_modify_other
    exact fun same => other (congrArg Action.finish same)
  | release n =>
    obtain ⟨scope, found, -⟩ := holds_iff.mp permits.1
    rw [step_release found]
    exact unchanged rfl
  | capture | leak => exact unchanged rfl

theorem finished_step (h : s.console.Finished k) (a : Action) : (s.step a).console.Finished k := by
  cases a with
  | collect channel => exact h.addCollector channel
  | emit level text => exact h.emit _
  | receive j => exact h.receive j
  | pushResult j | hangUp j => exact h.modify j fun _ finished => finished
  | finish j => exact h.modify j fun _ _ => rfl
  | release n =>
    unfold step
    dsimp only
    split <;> exact h
  | capture | leak => exact h

/-- A collector is finished once. -/
theorem finish_not_mem (permits : s.PermitsAll actions) (finished : s.console.Finished k) :
    .finish k ∉ actions := by
  induction actions generalizing s with
  | nil => exact List.not_mem_nil
  | cons a rest ih =>
    obtain ⟨first, later⟩ := permits
    intro mem
    rcases List.mem_cons.mp mem with rfl | mem
    · exact finished.not_unfinished first
    · exact ih later (finished_step finished a) mem

theorem finish_once (permits : s.PermitsAll (.finish k :: actions)) : .finish k ∉ actions :=
  finish_not_mem permits.2 (finished_finish (size_of_unfinished permits.1))

theorem kept_after (sound : s.Sound) (permits : s.PermitsAll actions) (unfinished : .finish k ∉ actions) :
    (s.after actions).console.kept k = s.console.kept k ++ entrusted k (s.produced actions) := by
  induction actions generalizing s with
  | nil => exact (List.append_nil _).symm
  | cons a rest ih =>
    obtain ⟨first, later⟩ := permits
    rw [List.mem_cons, not_or] at unfinished
    have grown := kept_step sound first (Ne.symm unfinished.1)
    have grows := ih (sound_step first sound) later unfinished.2
    rw [grown, List.append_assoc, ← entrusted_append] at grows
    exact grows

/-- What a collector gives is told by the run before. -/
theorem finish_collects {before later : List Action} (sound : s.Sound)
    (permits : s.PermitsAll (before ++ .finish k :: later)) :
    (s.after before).console.kept k = s.console.kept k ++ entrusted k (s.produced before) := by
  apply kept_after sound (permitsAll_append.mp permits).1
  intro mem
  obtain ⟨front, back, rfl⟩ := List.append_of_mem mem
  rw [List.append_assoc] at permits
  have again := finish_once (permitsAll_append.mp permits).2
  exact again (List.mem_append_right back List.mem_cons_self)

/-! ## Everything given -/

theorem mem_given_iff : k ∈ (s.given actions).map (·.1) ↔ .finish k ∈ actions := by
  induction actions generalizing s with
  | nil => exact ⟨(nomatch ·), (nomatch ·)⟩
  | cons a rest ih =>
    simp only [given, List.map_append, List.mem_append, ih, List.mem_cons]
    apply or_congr_left
    cases a <;> simp [gift?, eq_comm]

theorem nodup_given (permits : s.PermitsAll actions) : ((s.given actions).map (·.1)).Nodup := by
  induction actions generalizing s with
  | nil => exact List.nodup_nil
  | cons a rest ih =>
    have later := ih permits.2
    by_cases finish : ∃ k, a = .finish k
    · obtain ⟨k, rfl⟩ := finish
      exact List.nodup_cons.mpr ⟨fun mem => finish_once permits (mem_given_iff.mp mem), later⟩
    · have nothing : s.gift? a = none := by
        cases a <;> simp_all [gift?]
      simpa [given, nothing] using later

/-- Collectors give no more than what they kept and were the keepers of. -/
theorem given_sublist (sound : s.Sound) (permits : s.PermitsAll actions) :
    ((s.given actions).flatMap (·.2.fragments)).Sublist (((s.given actions).map (·.1)).flatMap
      fun k => s.console.kept k ++ entrusted k (s.produced actions)) := by
  induction actions generalizing s with
  | nil => exact List.Sublist.refl _
  | cons a rest ih =>
    have ⟨first, later⟩ := permits
    have fromRest := ih (sound_step first sound) later
    have same : ∀ k ∈ ((s.step a).given rest).map (·.1),
        (s.step a).console.kept k ++ entrusted k ((s.step a).produced rest) =
          s.console.kept k ++ entrusted k (s.produced (a :: rest)) := by
      intro k mem
      -- what is given later is not given now
      have other : a ≠ .finish k := by
        rintro rfl
        exact finish_once permits (mem_given_iff.mp mem)
      rw [kept_step sound first other, List.append_assoc, ← entrusted_append]
      rfl
    rw [List.flatMap_congr same] at fromRest
    rw [given, List.flatMap_append, List.map_append, List.flatMap_append]
    refine List.Sublist.append ?_ fromRest
    cases a with
    | finish k => simp [gift?, finish_fst]
    | _ => exact List.Sublist.refl _

end Scoped

/-- Collectors with different numbers are entrusted with different entries. -/
theorem entrusted_subperm {keys : List Nat} (nodup : keys.Nodup)
    (entries : List (Option Nat × Fragment)) :
    (keys.flatMap (entrusted · entries)).Subperm (entries.map (·.2)) := by
  induction keys generalizing entries with
  | nil => exact List.nil_subperm
  | cons k rest ih =>
    obtain ⟨absent, nodup⟩ := List.nodup_cons.mp nodup
    -- the other collectors get theirs from the entries that are not this one's
    have others : rest.flatMap (entrusted · entries) =
        rest.flatMap (entrusted · (entries.filter fun entry => !decide (entry.1 = some k))) := by
      apply List.flatMap_congr
      intro j mem
      have apart : j ≠ k := fun same => absent (same ▸ mem)
      unfold entrusted
      rw [List.filter_filter]
      congr 1
      apply List.filter_congr
      rintro ⟨keeper, f⟩ -
      by_cases own : keeper = some j
      · simp [own, apart]
      · simp [own]
    rw [List.flatMap_cons, others]
    have parts := (List.filter_append_perm (·.1 = some k) entries).map (·.2)
    rw [List.map_append] at parts
    exact ((List.Subperm.refl _).append (ih nodup _)).trans parts.subperm

/-- Scopes that are released from the innermost one outwards restore what they found, and each
collector gives what it was the keeper of. -/
theorem tidy_of_permits (actions : List Action) (permits : Scoped.PermitsAll {} actions) :
    Tidy actions where
  restores before k between later n number split := by
    subst split number
    rw [List.append_assoc] at permits
    rw [List.append_assoc, Scoped.after_append]
    exact Scoped.release_restores (Scoped.permitsAll_append.mp permits).2
  collects before k later split := by
    subst split
    have content := Scoped.finish_collects (k := k) (nofun : Scoped.Sound {}) permits
    rw [finish_fst, content]
    rfl
  apart := by
    have given := Scoped.given_sublist (nofun : Scoped.Sound {}) permits
    have parted := entrusted_subperm (Scoped.nodup_given permits) (Scoped.produced {} actions)
    exact given.subperm.trans parted

/-- One collector is captured twice, and what is captured on top of it leaks. The release takes that
away with it, and the collector below gets the messages again. -/
theorem leak_inside_scope :
    let before : List Action :=
      [.collect none, .collect (some {}), .capture 0, .emit .log "below"]
    let between : List Action :=
      [.emit .warn "inside", .pushResult 1 "42", .capture 0, .leak 2, .emit .info "leaked"]
    let later : List Action :=
      [.emit .error "below again", .finish 1, .release 0, .emit .log "lost", .finish 0]
    let actions := before ++ .capture 1 :: between ++ .release 1 :: later
    Scoped.PermitsAll {} actions ∧
    (Scoped.after {} (before ++ .capture 1 :: between)).console.installed = [0, 1, 0] ∧
    (Scoped.after {} (before ++ .capture 1 :: between ++ [.release 1])).console.installed = [0] ∧
    ((Scoped.after {} (actions.take 12)).console.finish 1).1 =
      ⟨"42\ninside", [.console .warn "inside", .result "42"]⟩ ∧
    ((Scoped.after {} (actions.take 15)).console.finish 0).1 = ⟨"below\nleaked\nbelow again",
      [.console .log "below", .console .info "leaked", .console .error "below again"]⟩ ∧
    ((Scoped.given {} actions).flatMap (·.2.fragments)).length = 5 ∧
    (Scoped.produced {} actions).length = 6 := by
  intro before between later actions
  have permits : Scoped.PermitsAll {} actions := by decide
  have tidy := tidy_of_permits actions permits
  refine ⟨permits, by decide, ?_, ?_, ?_, by decide, by decide⟩
  · exact (tidy.restores before 1 between later 1 rfl rfl).trans (by decide)
  · have content : entrusted 1 (Scoped.produced {} (actions.take 12)) =
        [.console .warn "inside", .result "42"] := by decide
    rw [tidy.collects (actions.take 12) 1 (actions.drop 13) rfl, content]
    exact congrArg (Collected.mk · _) (by decide +kernel)
  · have content : entrusted 0 (Scoped.produced {} (actions.take 15)) =
        [.console .log "below", .console .info "leaked", .console .error "below again"] := by decide
    rw [tidy.collects (actions.take 15) 0 [] rfl, content]
    exact congrArg (Collected.mk · _) (by decide +kernel)

end ScriptSession.Console
