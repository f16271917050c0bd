import ScriptSession.Proofs.Desk.Frames
import ScriptSession.Proofs.Desk.Moves

/-!
# What moves do to tokens and managers

The tokens with their listeners and the managers are all that interrupts are about (`Signals`). A move
does one thing to them at most: it takes a listener back, registers one, or retires a token
(`Scene.change`). `Scene.signals_next` says that this is all it does to them, and `Scene.advances_next`
which listeners it leaves to be run.
-/
namespace ScriptSession

/-- A listener on its token, with the key that it got there. -/
structure Post where
  token : Nat
  key : Nat
  listener : Listener

def Post.place (p : Post) : Nat × Nat := (p.token, p.key)

/-- What is done to tokens and managers. -/
inductive Change where
  | nothing
  | removed (token key : Nat)
  | registered (post : Post)
  | retired (manager token : Nat)

/-! ## Signals -/

/-- A token apart from the tasks that wait for its abort. -/
def Token.alone (t : Token) : Token := { t with waiting := [] }

def Token.without (t : Token) (key : Nat) : Token :=
  { t with listeners := t.listeners.filter (·.1 != key) }

/-- A listener that comes to an aborted token does not stay. -/
def Token.receive (t : Token) (p : Post) : Token :=
  { t with
    nextKey := p.key + 1
    listeners := if t.aborted then t.listeners else t.listeners ++ [(p.key, p.listener)] }

def Token.retire (t : Token) : Token := { t with aborted := true, listeners := [] }

def Token.fresh (generation : Nat) : Token := { generation := generation }

structure Signals where
  tokens : List Token
  managers : List Manager

namespace Signals

def modify (g : Signals) (token : Nat) (f : Token → Token) : Signals :=
  { g with tokens := g.tokens.modify token f }

def next (g : Signals) : Change → Signals
  | .nothing => g
  | .removed token key => g.modify token (·.without key)
  | .registered p => g.modify p.token (·.receive p)
  | .retired manager token =>
    match g.managers[manager]? with
    | none => g
    | some m =>
      { tokens := (g.tokens ++ [Token.fresh m.nextGeneration]).modify token Token.retire
        managers := g.managers.set manager
          { current := g.tokens.length, nextGeneration := m.nextGeneration + 1 } }

/-- The listeners on a token, in the order of their registration. -/
def posts (g : Signals) (token : Nat) : List Post :=
  (g.tokens[token]?).toList.flatMap fun t => t.listeners.map fun entry => ⟨token, entry.1, entry.2⟩

end Signals

def Desk.signals (d : Desk) : Signals := ⟨d.tokens.map Token.alone, d.managers⟩

/-! ## Moves -/

/-- What taking a request back does. -/
def PendingRequest.dropped (r : PendingRequest) : Change :=
  match r.listener with
  | some key => .removed r.token key
  | none => .nothing

namespace Desk

def posts (d : Desk) (token : Nat) : List Post := d.signals.posts token

def registers (d : Desk) (token : Nat) (listener : Listener) : Change :=
  match d.tokens[token]? with
  | some t => .registered ⟨token, t.nextKey, listener⟩
  | none => .nothing

def retires (d : Desk) (manager : Nat) : Change :=
  match d.managers[manager]? with
  | some m => .retired manager m.current
  | none => .nothing

def dismisses (d : Desk) : Change :=
  match d.active, d.queue with
  | some id, head :: _ => if head.id = id then head.dropped else .nothing
  | _, _ => .nothing

def performs (d : Desk) : Act → Change
  | .report | .note _ => .nothing
  | .answer _ => d.dismisses
  | .interrupt manager => d.retires manager
  | .listen token label acts => d.registers token (.custom label acts)

def withdraws (d : Desk) (id : Nat) : Change :=
  match d.queue.find? (·.id == id) with
  | some r => r.dropped
  | none => .nothing

/-- Only the first poll of a task that asks for a line does something. -/
def polls (d : Desk) (k : Nat) : Change :=
  match d.tasks[k]? with
  | some ⟨.request _, token, .unpolled, _⟩ =>
    if d.isAborted token then .nothing else d.registers token (.reject d.nextRequest)
  | _ => .nothing

def drops (d : Desk) (k : Nat) : Change :=
  match d.tasks[k]? with
  | some ⟨_, _, .queued id, _⟩ => d.withdraws id
  | _ => .nothing

/-- The listeners that have to run now: those on a token that is retired, and one that comes to an
aborted token. -/
def calls (d : Desk) : Change → List Post
  | .retired _ token => d.posts token
  | .registered p => if d.isAborted p.token then [p] else []
  | .nothing | .removed .. => []

end Desk

namespace Scene

/-- What a move does to tokens and managers, from outside or in a listener that is running. -/
def change (s : Scene) : Move → Change
  | .interrupt manager => s.desk.retires manager
  | .answer _ => s.desk.dismisses
  | .listen token label acts => s.desk.registers token (.custom label acts)
  | .unlisten token key => .removed token key
  | .poll k => s.desk.polls k
  | .drop k => s.desk.drops k
  | .errand =>
    match s.due with
    | ⟨.perform _ (act :: _), _⟩ :: _ => s.desk.performs act
    | _ => .nothing
  | .ask .. | .wait _ => .nothing

/-- The listeners that a move calls. -/
def calls (s : Scene) (m : Move) : List Post := s.desk.calls (s.change m)

/-- The listener that starts to run by a move. -/
def runs (s : Scene) (m : Move) : List Listener :=
  match m, s.due with
  | .errand, ⟨.run listener, _⟩ :: _ => [listener]
  | _, _ => []

end Scene

/-! ## Signals of a move -/

namespace Desk

/-- Every manager's token is there and not aborted. -/
def Guided (d : Desk) : Prop :=
  ∀ m ∈ d.managers, ∃ t, d.tokens[m.current]? = some t ∧ t.aborted = false

variable {d e : Desk}

theorem signals_congr (tokens : e.tokens = d.tokens) (managers : e.managers = d.managers) :
    e.signals = d.signals := by
  rw [signals, signals, tokens, managers]

theorem signals_modifyToken (d : Desk) (token : Nat) {f g : Token → Token}
    (same : ∀ t, d.tokens[token]? = some t → (f t).alone = g t.alone) :
    (d.modifyToken token f).signals = d.signals.modify token g := by
  refine congrArg (Signals.mk · d.managers) (List.ext_getElem? fun i => ?_)
  simp only [modifyToken, signals, List.getElem?_map, List.getElem?_modify]
  by_cases here : token = i
  · subst here
    cases found : d.tokens[token]? with
    | none => rfl
    | some t => simp [same t found]
  · simp [here]

theorem signals_unchanged (d : Desk) (token : Nat) {f : Token → Token}
    (same : ∀ t, (f t).alone = t.alone) : (d.modifyToken token f).signals = d.signals := by
  rw [signals_modifyToken d token (g := id) fun t _ => same t]
  exact congrArg (Signals.mk · d.managers) (List.modify_id ..)

theorem signals_removeListener (d : Desk) (token key : Nat) :
    (d.removeListener token key).signals = d.signals.next (.removed token key) :=
  signals_modifyToken d token fun _ _ => rfl

theorem signals_dropListener (d : Desk) (r : PendingRequest) :
    (d.dropListener r).signals = d.signals.next r.dropped := by
  unfold dropListener PendingRequest.dropped
  cases r.listener with
  | some key => exact signals_removeListener d r.token key
  | none => rfl

theorem signals_showHead (d : Desk) : d.showHead.signals = d.signals :=
  signals_congr (tokens_showHead d) (managers_showHead d)

theorem signals_hide (d : Desk) (wasActive : Bool) : (d.hide wasActive).signals = d.signals :=
  signals_congr (tokens_hide d wasActive) (managers_hide d wasActive)

theorem signals_settle (d : Desk) (r : PendingRequest) (reply : Reply) :
    (d.settle r reply).signals = d.signals :=
  signals_congr (tokens_settle d r reply) (managers_settle d r reply)

theorem signals_reject (d : Desk) (id : Nat) : (d.reject id).signals = d.signals := by
  unfold reject
  split
  · rfl
  · rename_i taken
    rw [signals_showHead, signals_hide, signals_settle]
    exact signals_congr (tokens_take taken) (managers_take taken)

theorem signals_withdraw (d : Desk) (id : Nat) :
    (d.withdraw id).signals = d.signals.next (d.withdraws id) := by
  unfold withdraw withdraws
  cases taken : d.take? id with
  | none =>
    have absent : d.queue.find? (·.id == id) = none :=
      List.find?_eq_none.mpr fun r mem => by simpa using take_eq_none taken r mem
    rw [absent]
    rfl
  | some found =>
    obtain ⟨r, rest⟩ := found
    have there : d.queue.find? (·.id == id) = some r := by
      unfold take? at taken
      split at taken
      · cases taken
      · rename_i there
        cases taken
        exact there
    rw [there]
    dsimp only
    rw [signals_showHead, signals_hide, signals_dropListener,
      signals_congr (tokens_take taken) (managers_take taken)]

theorem signals_answer (d : Desk) (text : String) :
    (d.answer text).2.signals = d.signals.next d.dismisses := by
  unfold answer dismisses
  cases d.active with
  | none => rfl
  | some id =>
    cases d.queue with
    | nil => rfl
    | cons head rest =>
      dsimp only
      split
      · exact (signals_showHead _).trans ((signals_settle ..).trans (signals_dropListener ..))
      · rfl

theorem signals_register (d : Desk) (token : Nat) (listener : Listener) :
    (d.register token listener).2.2.signals = d.signals.next (d.registers token listener) := by
  unfold register registers
  cases found : d.tokens[token]? with
  | none => rfl
  | some t =>
    dsimp only
    split
    · rename_i aborted
      refine signals_modifyToken d token fun u there => ?_
      cases found.symm.trans there
      simp [Token.alone, Token.receive, aborted]
    · rename_i alive
      refine signals_modifyToken d token fun u there => ?_
      cases found.symm.trans there
      simp [Token.alone, Token.receive, alive]

theorem signals_foldl_wake (d : Desk) (tasks : List Nat) :
    (tasks.foldl wake d).signals = d.signals := by
  obtain ⟨woken, eq, -⟩ := wake_shape d tasks
  rw [eq]
  rfl

theorem signals_retire (guided : d.Guided) (manager : Nat) :
    (d.retire manager).2.signals = d.signals.next (d.retires manager) := by
  unfold retire retires
  cases found : d.managers[manager]? with
  | none => rfl
  | some m =>
    obtain ⟨t, there, alive⟩ := guided m (List.mem_of_getElem? found)
    have there' : (d.tokens ++ [Token.fresh m.nextGeneration])[m.current]? = some t := by
      rw [List.getElem?_append_left (List.getElem?_eq_some_iff.mp there).1, there]
    have found' : d.signals.managers[manager]? = some m := found
    unfold Token.fresh at there'
    simp only [there', alive, Bool.false_eq_true, if_false, signals_foldl_wake, Signals.next, found']
    rw [signals_modifyToken (g := Token.retire) _ _ fun _ _ => rfl]
    simp [signals, Signals.modify, Token.alone, Token.fresh]

theorem signals_performs (guided : d.Guided) (label : String) (act : Act) :
    (d.perform label act).2.signals = d.signals.next (d.performs act) := by
  cases act with
  | report | note => rfl
  | answer text => exact signals_answer d text
  | interrupt manager => exact signals_retire guided manager
  | listen token label acts => exact signals_register d token _

theorem signals_enqueue {token : Nat} (alive : d.isAborted token = false) (prompt : String)
    (task : Option Nat) : (d.enqueue prompt token task).2.signals =
      d.signals.next (d.registers token (.reject d.nextRequest)) := by
  have registered := signals_register { d with nextRequest := d.nextRequest + 1 } token
    (.reject d.nextRequest)
  have quiet : (Desk.register { d with nextRequest := d.nextRequest + 1 } token
      (.reject d.nextRequest)).2.1 = [] := by
    unfold register
    split
    · rfl
    · rename_i t found
      have alive : t.aborted = false := (isAborted_eq found).symm.trans alive
      rw [alive, if_neg Bool.false_ne_true]
  unfold enqueue
  dsimp only
  rw [signals_showHead, quiet, runAll_nil]
  exact registered

theorem signals_poll (d : Desk) (k : Nat) : (d.poll k).2.signals = d.signals.next (d.polls k) := by
  unfold poll polls
  cases d.tasks[k]? with
  | none => rfl
  | some task =>
    obtain ⟨kind, token, stage, woken⟩ := task
    cases stage with
    | unpolled =>
      cases kind with
      | request prompt =>
        simp only [pollStage]
        split
        · rename_i aborted
          rw [if_pos (show d.isAborted token = true from aborted)]
          rfl
        · rename_i alive
          rw [if_neg (show ¬ d.isAborted token = true from alive)]
          exact signals_enqueue (d := d.unwoken k) (Bool.eq_false_iff.mpr alive) prompt (some k)
      | wait =>
        simp only [pollStage]
        split
        · rfl
        · exact signals_unchanged (d.unwoken k) token fun _ => rfl
    | queued id =>
      simp only [pollStage]
      split
      · rename_i reply rest fetched
        have same : rest.signals = (d.unwoken k).signals :=
          signals_congr (tokens_fetch fetched) (managers_fetch fetched)
        exact same
      · rfl
    | watching =>
      simp only [pollStage]
      split <;> cases kind <;> rfl
    | ended => cases kind <;> rfl

theorem signals_dropTask (d : Desk) (k : Nat) :
    (d.dropTask k).signals = d.signals.next (d.drops k) := by
  unfold dropTask drops
  cases d.tasks[k]? with
  | none => rfl
  | some task =>
    obtain ⟨kind, token, stage, woken⟩ := task
    cases stage with
    | queued id => exact signals_withdraw (d.setStage k .ended) id
    | watching => exact signals_unchanged (d.setStage k .ended) token fun _ => rfl
    | unpolled | ended => rfl

end Desk

namespace Scene

variable {s : Scene}

theorem signals_runErrand (guided : s.desk.Guided) :
    s.runErrand.desk.signals = s.desk.signals.next (s.change .errand) := by
  unfold runErrand change
  split
  · rename_i due
    rw [due]
    rfl
  · rename_i x rest due
    rw [due]
    obtain ⟨e, inAbort⟩ := x
    cases e with
    | run listener =>
      cases listener with
      | reject request => exact Desk.signals_reject s.desk request
      | custom => rfl
    | perform label acts =>
      cases acts with
      | nil => rfl
      | cons act acts => exact Desk.signals_performs guided label act

theorem signals_next (guided : s.desk.Guided) (m : Move) :
    (s.next m).desk.signals = s.desk.signals.next (s.change m) := by
  cases m with
  | interrupt manager => exact Desk.signals_retire guided manager
  | ask | wait => rfl
  | poll k => exact Desk.signals_poll s.desk k
  | drop k => exact Desk.signals_dropTask s.desk k
  | answer text => exact Desk.signals_answer s.desk text
  | listen token label acts => exact Desk.signals_register s.desk token _
  | unlisten token key => exact Desk.signals_removeListener s.desk token key
  | errand => exact signals_runErrand guided

end Scene

/-! ## Errands -/

def Errand.listener? : Errand → Option Listener
  | .run listener => some listener
  | .perform .. => none

/-- The listeners that are due, the next one first. -/
def listeners (due : List Due) : List Listener := due.filterMap (·.errand.listener?)

theorem listeners_append (a b : List Due) : listeners (a ++ b) = listeners a ++ listeners b :=
  List.filterMap_append

namespace Desk

variable {d : Desk}

theorem errands_retire (guided : d.Guided) (manager : Nat) :
    (d.retire manager).1 = (d.calls (d.retires manager)).map fun p => .run p.listener := by
  unfold retire retires
  cases found : d.managers[manager]? with
  | none => rfl
  | some m =>
    obtain ⟨t, there, alive⟩ := guided m (List.mem_of_getElem? found)
    have there' : (d.tokens ++ [Token.fresh m.nextGeneration])[m.current]? = some t := by
      rw [List.getElem?_append_left (List.getElem?_eq_some_iff.mp there).1, there]
    unfold Token.fresh at there'
    simp [there', alive, calls, posts, Signals.posts, signals, Token.alone, there]

theorem errands_register (d : Desk) (token : Nat) (listener : Listener) :
    (d.register token listener).2.1 =
      (d.calls (d.registers token listener)).map fun p => .run p.listener := by
  unfold register registers
  cases found : d.tokens[token]? with
  | none => rfl
  | some t =>
    dsimp only
    cases aborted : t.aborted <;> simp [calls, isAborted_eq found, aborted]

theorem calls_dropped (d : Desk) (r : PendingRequest) : d.calls r.dropped = [] := by
  unfold PendingRequest.dropped
  split <;> rfl

theorem calls_dismisses (d : Desk) : d.calls d.dismisses = [] := by
  unfold dismisses
  split
  · split
    · exact calls_dropped d _
    · rfl
  · rfl

/-- A request is queued under a token that is not aborted. -/
theorem calls_polls (d : Desk) (k : Nat) : d.calls (d.polls k) = [] := by
  unfold polls
  split
  · split
    · rfl
    · rename_i alive
      unfold registers
      split
      · simp [calls, Bool.eq_false_iff.mpr alive]
      · rfl
  · rfl

theorem calls_drops (d : Desk) (k : Nat) : d.calls (d.drops k) = [] := by
  unfold drops
  split
  · unfold withdraws
    split
    · exact calls_dropped d _
    · rfl
  · rfl

theorem errands_perform (guided : d.Guided) (label : String) (act : Act) :
    (d.perform label act).1 = (d.calls (d.performs act)).map fun p => .run p.listener := by
  cases act with
  | report | note => rfl
  | answer text =>
    rw [performs, calls_dismisses]
    rfl
  | interrupt manager => exact errands_retire guided manager
  | listen token label acts => exact errands_register d token _

end Desk

namespace Scene

variable {s : Scene}

/-- How the errands that are due change by a move: one is worked off at most, and the listeners that
are called come in its place, with what is left of it behind them. -/
structure Advances (s : Scene) (m : Move) (gone called left rest : List Due) : Prop where
  before : s.due = gone ++ rest
  after : (s.next m).due = called ++ (left ++ rest)
  one : gone.length ≤ 1
  run : listeners gone = s.runs m
  called : listeners called = (s.calls m).map (·.listener)
  quiet : listeners left = []
  inPlace : s.calls m ≠ [] → left.length = gone.length

theorem listeners_called (posts : List Post) (due : Errand → Due) (same : ∀ e, (due e).errand = e) :
    listeners ((posts.map fun p => .run p.listener).map due) = posts.map (·.listener) := by
  induction posts with
  | nil => rfl
  | cons p rest ih => simp_all [listeners, Errand.listener?]

/-- A move that works nothing off. -/
theorem advances_call {m : Move} (called : List Due) (after : (s.next m).due = called ++ s.due)
    (none : s.runs m = []) (calls : listeners called = (s.calls m).map (·.listener)) :
    s.Advances m [] called [] s.due :=
  ⟨rfl, after, Nat.zero_le 1, none.symm, calls, rfl, fun _ => rfl⟩

theorem advances_errand (guided : s.desk.Guided) :
    ∃ gone called left rest, s.Advances .errand gone called left rest := by
  cases due : s.due with
  | nil =>
    refine ⟨[], [], [], [], due, ?_, Nat.zero_le 1, ?_, ?_, rfl, fun _ => rfl⟩
    · simp [next, runErrand, due]
    · simp [runs, due, listeners]
    · simp [calls, change, due, Desk.calls, listeners]
  | cons x rest =>
    have after : (s.next .errand).due = (s.desk.step x.errand).1.map x.leaves ++ rest := by
      simp [next, runErrand, due]
    obtain ⟨e, inAbort⟩ := x
    cases e with
    | run listener =>
      refine ⟨[_], [], (s.desk.step (.run listener)).1.map (Due.leaves ⟨.run listener, inAbort⟩),
        rest, due, after, Nat.le_refl 1, ?_, ?_, ?_, ?_⟩
      · simp [runs, due, listeners, Errand.listener?]
      · simp [calls, change, due, Desk.calls, listeners]
      · cases listener <;> rfl
      · simp [calls, change, due, Desk.calls]
    | perform label acts =>
      have none : s.runs .errand = [] := by simp [runs, due]
      cases acts with
      | nil =>
        refine ⟨[_], [], [], rest, due, after, Nat.le_refl 1, none.symm, ?_, rfl, ?_⟩
        · simp [calls, change, due, Desk.calls, listeners]
        · simp [calls, change, due, Desk.calls]
      | cons act acts =>
        have calls : s.calls .errand = s.desk.calls (s.desk.performs act) := by
          simp [calls, change, due]
        let x : Due := ⟨.perform label (act :: acts), inAbort⟩
        refine ⟨[x], (s.desk.perform label act).1.map x.leaves, [x.leaves (.perform label acts)], rest,
          due, ?_, Nat.le_refl 1, none.symm, ?_, rfl, fun _ => rfl⟩
        · rw [after]
          simp [Desk.step, x]
        · rw [calls, Desk.errands_perform guided]
          exact listeners_called _ _ fun _ => rfl

theorem advances_next (guided : s.desk.Guided) (m : Move) :
    ∃ gone called left rest, s.Advances m gone called left rest := by
  cases m with
  | interrupt manager =>
    refine ⟨_, _, _, _, advances_call ((s.desk.retire manager).1.map (⟨·, true⟩)) rfl rfl ?_⟩
    rw [Desk.errands_retire guided]
    exact listeners_called _ _ fun _ => rfl
  | listen token label acts =>
    refine ⟨_, _, _, _, advances_call
      ((s.desk.register token (.custom label acts)).2.1.map (⟨·, s.aborting⟩)) rfl rfl ?_⟩
    rw [Desk.errands_register]
    exact listeners_called _ _ fun _ => rfl
  | ask | wait | unlisten => exact ⟨_, _, _, _, advances_call [] rfl rfl rfl⟩
  | answer text =>
    refine ⟨_, _, _, _, advances_call [] rfl rfl ?_⟩
    rw [calls, change, Desk.calls_dismisses]
    rfl
  | poll k =>
    refine ⟨_, _, _, _, advances_call [] rfl rfl ?_⟩
    rw [calls, change, Desk.calls_polls]
    rfl
  | drop k =>
    refine ⟨_, _, _, _, advances_call [] rfl rfl ?_⟩
    rw [calls, change, Desk.calls_drops]
    rfl
  | errand => exact advances_errand guided

end Scene

end ScriptSession
