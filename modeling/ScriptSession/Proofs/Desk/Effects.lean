import Mathlib.Data.List.Chain
import ScriptSession.Proofs.Desk.Settlement

/-!
# What was done at a desk

A call at the desk settles or withdraws a request, takes it off the screen and shows the next one, in
this order. `Scene.effects` says what a move does of this, and `effects` is the history of a run.

Three things happen to the front of a desk: a request leaves the queue (`Told.leave`), the head of the
queue is shown (`Told.showHead`), and a request joins the queue (`Told.join`). Each keeps what the
history says about the front (`Front.Told`).
-/
namespace ScriptSession

/-- What a call does that matters to others. -/
inductive Effect where
  | settled (request : Nat) (reply : Reply)
  | withdrawn (request : Nat)
  | published (value : Option ActiveRequest)
  deriving DecidableEq

namespace Effect

def value? : Effect → Option (Option ActiveRequest)
  | published value => some value
  | settled _ _ | withdrawn _ => none

/-- The request that is shown from then on. -/
def request? : Effect → Option ActiveRequest
  | published value => value
  | settled _ _ | withdrawn _ => none

end Effect

/-- The values that were published, the first one first. -/
def written (log : List Effect) : List (Option ActiveRequest) := log.filterMap Effect.value?

/-- The requests that were shown, in the order in which they were. -/
def shownRequests (log : List Effect) : List ActiveRequest := log.filterMap Effect.request?

/-- The request was settled or withdrawn. -/
def Left (log : List Effect) (id : Nat) : Prop :=
  (∃ reply, .settled id reply ∈ log) ∨ .withdrawn id ∈ log

/-- Before a request is shown every earlier one has left. -/
def InTurn (log : List Effect) : Prop :=
  ∀ before r after, log = before ++ .published (some r) :: after →
    ∀ earlier ∈ shownRequests before, Left before earlier.id

/-- One of the two is a request, and the other one is nothing. -/
def Alternates (a b : Option ActiveRequest) : Prop := b.isSome = !a.isSome

theorem Left.append {log : List Effect} {id : Nat} (h : Left log id) (more : List Effect) :
    Left (log ++ more) id :=
  h.imp (fun ⟨reply, mem⟩ => ⟨reply, List.mem_append_left _ mem⟩) (List.mem_append_left _)

theorem Left.of_append {more : List Effect} {id : Nat} (h : Left more id) (log : List Effect) :
    Left (log ++ more) id :=
  h.imp (fun ⟨reply, mem⟩ => ⟨reply, List.mem_append_right _ mem⟩) (List.mem_append_right _)

/-- Effects that show no request. -/
theorem InTurn.append {log more : List Effect} (h : InTurn log)
    (silent : ∀ r, .published (some r) ∉ more) : InTurn (log ++ more) := by
  intro before r after split
  rcases List.append_eq_append_iff.mp split with ⟨_, -, later⟩ | ⟨middle, early, later⟩
  · exact absurd (later ▸ by simp) (silent r)
  · cases middle with
    | nil => exact absurd (by simp [← show _ = more from later]) (silent r)
    | cons effect rest =>
      simp only [List.cons_append, List.cons.injEq] at later
      obtain ⟨rfl, rfl⟩ := later
      exact h before r rest early

theorem InTurn.show {log : List Effect} (h : InTurn log)
    (gone : ∀ earlier ∈ shownRequests log, Left log earlier.id) (r : ActiveRequest) :
    InTurn (log ++ [.published (some r)]) := by
  intro before r' after split
  rcases List.append_eq_append_iff.mp split with ⟨between, early, later⟩ | ⟨middle, early, later⟩
  · cases between with
    | nil => simpa [early] using gone
    | cons effect rest => simp at later
  · cases middle with
    | nil => simpa [early] using gone
    | cons effect rest =>
      simp only [List.cons_append, List.cons.injEq] at later
      obtain ⟨rfl, rfl⟩ := later
      exact h before r' rest early

/-! ## What the history says about the front -/

structure Front.Told (f : Front) (log : List Effect) : Prop where
  visible : (none :: written log).getLast? = some f.visible
  alternate : (none :: written log).IsChain Alternates
  rising : ((shownRequests log).map (·.id)).Pairwise (· < ·)
  below : ∀ r ∈ shownRequests log, r.id < f.nextRequest
  gone : ∀ r ∈ shownRequests log,
    f.active = some r.id ∨ Left log r.id ∧ ∀ q ∈ f.queue, r.id < q.id
  inTurn : InTurn log

namespace Desk

/-- What the screen shows once the request is off it. -/
def hides (d : Desk) (id : Nat) : List Effect :=
  if d.active = some id then [.published none] else []

/-- The request that is shown next, if it can be. -/
def next? (d : Desk) : Option PendingRequest :=
  match d.active, d.queue with
  | none, head :: _ => if d.isAborted head.token then none else some head
  | _, _ => none

def shows (d : Desk) : List Effect :=
  d.next?.toList.map fun r => .published (some ⟨r.id, r.prompt⟩)

/-- A request leaves, and the desk is ready to show the next one. -/
def leaves (d : Desk) (id : Nat) (how : Effect) (ready : Desk) : List Effect :=
  how :: d.hides id ++ ready.shows

/-- What an answer does. -/
def answering (d : Desk) (text : String) : List Effect :=
  match d.active, d.queue with
  | some id, head :: rest =>
    if head.id = id then d.leaves id (.settled id (.line text)) (d.served head rest text) else []
  | _, _ => []

/-- What the listener of a request does. -/
def rejecting (d : Desk) (id : Nat) : List Effect :=
  match d.take? id with
  | none => []
  | some (r, rest) =>
    d.leaves id (.settled id .cancelled) ((rest.settle r .cancelled).hide (d.active = some id))

def withdrawing (d : Desk) (id : Nat) : List Effect :=
  match d.take? id with
  | none => []
  | some (r, rest) =>
    d.leaves id (.withdrawn id) ((rest.dropListener r).hide (d.active = some id))

/-- What the first poll of a task does. -/
def asking (d : Desk) (k : Nat) (task : Task) : List Effect :=
  match task.stage, task.kind, d.tokens[task.token]? with
  | .unpolled, .request prompt, some t =>
    if t.aborted then [] else (d.joined prompt task.token t.nextKey (some k)).shows
  | _, _, _ => []

end Desk

/-- What a move does, in the order in which it does it. -/
def Scene.effects (s : Scene) : Move → List Effect
  | .answer text => s.desk.answering text
  | .errand =>
    match s.due with
    | ⟨.run (.reject id), _⟩ :: _ => s.desk.rejecting id
    | ⟨.perform _ (.answer text :: _), _⟩ :: _ => s.desk.answering text
    | _ => []
  | .drop k =>
    match s.desk.stage? k with
    | some (.queued id) => (s.desk.setStage k .ended).withdrawing id
    | _ => []
  | .poll k => (s.desk.tasks[k]?).toList.flatMap (s.desk.asking k)
  | _ => []

/-- Everything that was done, in the order of the moves. -/
def effects (past : List (Scene × Move)) : List Effect := past.flatMap fun (s, m) => s.effects m

/-! ## The history and the front -/

theorem written_append (log more : List Effect) : written (log ++ more) = written log ++ written more :=
  List.filterMap_append

theorem shownRequests_append (log more : List Effect) :
    shownRequests (log ++ more) = shownRequests log ++ shownRequests more :=
  List.filterMap_append

theorem written_shows (d : Desk) :
    written d.shows = d.next?.toList.map fun r => some ⟨r.id, r.prompt⟩ := by
  unfold Desk.shows
  cases d.next? <;> rfl

namespace Desk

variable {d : Desk} {log : List Effect}

theorem next_eq_some {r : PendingRequest} (h : d.next? = some r) :
    d.active = none ∧ (∃ rest, d.queue = r :: rest) ∧ d.isAborted r.token = false := by
  unfold next? at h
  split at h
  · rename_i head rest hidden queue
    split at h
    · cases h
    · rename_i alive
      cases h
      exact ⟨hidden, ⟨rest, queue⟩, by simpa using alive⟩
  · cases h

theorem showHead_eq (d : Desk) : d.showHead = match d.next? with
    | some r => { d with active := some r.id }.publish (some ⟨r.id, r.prompt⟩)
    | none => d := by
  unfold showHead next?
  cases hidden : d.active with
  | some id => simp only
  | none =>
    cases queue : d.queue with
    | nil => simp only
    | cons head rest =>
      by_cases aborted : d.isAborted head.token = true
      · simp only [aborted, if_true]
      · simp only [aborted, if_false, Bool.false_eq_true]

end Desk

/-- The effects of a request that leaves show no other one. -/
theorem shownRequests_leave {how : Effect} (silent : how.value? = none) (d : Desk) (id : Nat) :
    shownRequests (how :: d.hides id) = [] := by
  have hidden : shownRequests (d.hides id) = [] := by
    unfold Desk.hides
    split <;> rfl
  cases how with
  | settled | withdrawn => exact hidden
  | published => cases silent

theorem written_leave {how : Effect} (silent : how.value? = none) (d : Desk) (id : Nat) :
    written (how :: d.hides id) = if d.active = some id then [none] else [] := by
  rw [written, List.filterMap_cons_none silent]
  unfold Desk.hides
  split <;> rfl

theorem Front.Agrees.isSome_visible {f : Front} (h : f.Agrees) :
    f.visible.isSome = f.active.isSome := by
  rcases h with ⟨active, visible⟩ | ⟨head, rest, -, active, visible⟩ <;> simp [active, visible]

theorem Front.Lined.head_le {f : Front} (h : f.Lined) {id : Nat} (active : f.active = some id)
    {q : PendingRequest} (mem : q ∈ f.queue) : id ≤ q.id := by
  rcases h.agrees with ⟨none, -⟩ | ⟨head, rest, queue, shown, -⟩
  · simp [none] at active
  · have ordered := h.ordered
    rw [queue, List.map_cons, List.pairwise_cons] at ordered
    rw [shown, Option.some.injEq] at active
    rw [queue] at mem
    rcases List.mem_cons.mp mem with rfl | later
    · exact Nat.le_of_eq active.symm
    · exact active ▸ Nat.le_of_lt (ordered.1 _ (List.mem_map_of_mem later))

namespace Front.Told

variable {d : Desk} {log : List Effect}

/-- A value that is published after the one that is visible. -/
theorem publish {f : Front} (h : f.Told log) {value : Option ActiveRequest}
    (other : value.isSome = !f.visible.isSome) :
    (none :: (written log ++ [value])).IsChain Alternates := by
  rw [← List.cons_append]
  refine List.isChain_append.mpr ⟨h.alternate, List.isChain_singleton value, ?_⟩
  intro x last y first
  rw [h.visible] at last
  cases last
  cases first
  exact other

/-- A request leaves the queue, and the screen if it was there. -/
theorem leave (h : d.front.Told log) (lined : d.front.Lined) {id : Nat} {how : Effect}
    (silent : how.value? = none) (left : Left [how] id) :
    (d.without id).Told (log ++ how :: d.hides id) := by
  have requests : shownRequests (log ++ how :: d.hides id) = shownRequests log := by
    rw [shownRequests_append, shownRequests_leave silent, List.append_nil]
  refine ⟨?_, ?_, requests ▸ h.rising, requests ▸ h.below, ?_, ?_⟩
  · have before := h.visible
    rw [written_append, written_leave silent, Desk.without]
    split
    · rw [← List.cons_append, List.getLast?_concat]
    · rwa [List.append_nil]
  · rw [written_append, written_leave silent]
    split
    · rename_i shown
      apply h.publish
      rw [lined.agrees.isSome_visible, show d.front.active = some id from shown]
      rfl
    · rw [List.append_nil]
      exact h.alternate
  · rw [requests]
    intro r mem
    have gone : Left (log ++ how :: d.hides id) id := (left.append (d.hides id)).of_append log
    rcases h.gone r mem with active | ⟨before, ahead⟩
    · have active : d.active = some r.id := active
      by_cases same : r.id = id
      · refine .inr ⟨same ▸ gone, fun q queued => ?_⟩
        have le := lined.head_le active (List.mem_of_mem_eraseP queued)
        have ne := lined.ne_of_mem_eraseP queued
        omega
      · refine .inl ?_
        simp [Desk.without, active, same]
    · exact .inr ⟨before.append _, fun q queued => ahead q (List.mem_of_mem_eraseP queued)⟩
  · refine h.inTurn.append fun r mem => ?_
    have shown : r ∈ shownRequests (how :: d.hides id) := List.mem_filterMap.mpr ⟨_, mem, rfl⟩
    rw [shownRequests_leave silent] at shown
    cases shown

theorem showHead (h : d.front.Told log) (lined : d.front.Lined) :
    d.showHead.front.Told (log ++ d.shows) := by
  rw [Desk.showHead_eq, Desk.shows]
  cases next : d.next? with
  | none => simpa using h
  | some r =>
    obtain ⟨hidden, ⟨rest, queue⟩, -⟩ := Desk.next_eq_some next
    have queued : r ∈ d.front.queue := by simp [Desk.front, queue]
    have before : ∀ earlier ∈ shownRequests log,
        Left log earlier.id ∧ ∀ q ∈ d.front.queue, earlier.id < q.id := fun earlier mem =>
      (h.gone earlier mem).resolve_left (by simp [Desk.front, hidden])
    have values : written (log ++ [.published (some ⟨r.id, r.prompt⟩)]) =
        written log ++ [some ⟨r.id, r.prompt⟩] := written_append ..
    have requests : shownRequests (log ++ [.published (some ⟨r.id, r.prompt⟩)]) =
        shownRequests log ++ [⟨r.id, r.prompt⟩] := shownRequests_append ..
    simp only [Option.toList_some, List.map_cons, List.map_nil]
    refine ⟨?_, ?_, ?_, ?_, ?_, ?_⟩
    · rw [values, ← List.cons_append, List.getLast?_concat]
      rfl
    · rw [values]
      apply h.publish
      rw [lined.agrees.isSome_visible, show d.front.active = none from hidden]
      rfl
    · rw [requests, List.map_append, List.pairwise_append]
      refine ⟨h.rising, by simp, fun a earlier b last => ?_⟩
      obtain ⟨e, mem, rfl⟩ := List.mem_map.mp earlier
      rw [List.mem_singleton.mp last]
      exact (before e mem).2 r queued
    · rw [requests]
      intro e mem
      rcases List.mem_append.mp mem with old | new
      · exact h.below e old
      · rw [List.mem_singleton.mp new]
        exact lined.below r queued
    · rw [requests]
      intro e mem
      rcases List.mem_append.mp mem with old | new
      · exact .inr ⟨(before e old).1.append _, (before e old).2⟩
      · rw [List.mem_singleton.mp new]
        exact .inl rfl
    · exact h.inTurn.show (fun earlier mem => (before earlier mem).1) _

theorem join (h : d.front.Told log) (prompt : String) (token key : Nat) (task : Option Nat) :
    (d.joined prompt token key task).front.Told log where
  visible := h.visible
  alternate := h.alternate
  rising := h.rising
  below r mem := Nat.lt_succ_of_lt (h.below r mem)
  gone r mem := by
    refine (h.gone r mem).imp id fun ⟨left, ahead⟩ => ⟨left, fun q queued => ?_⟩
    rcases List.mem_append.mp queued with old | new
    · exact ahead q old
    · rw [List.mem_singleton.mp new]
      exact h.below r mem
  inTurn := h.inTurn

end Front.Told

end ScriptSession
