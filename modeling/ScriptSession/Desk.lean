/-! The desk where evaluations ask the user for lines and where they are told to stop.

Requests for a line wait in a queue and only its head is shown to the user. A cancellation token is
aborted once, when its manager is interrupted; it then wakes whoever waits for it and runs its
listeners in the order of their registration, one of which stands there for each queued request and
takes it out of the queue. Listeners may themselves answer, interrupt or register listeners, so
an abort is a list of errands that grows while it is worked off. -/
namespace ScriptSession

/-- What the user is shown. -/
structure ActiveRequest where
  id : Nat
  prompt : String
  deriving DecidableEq, Repr

/-- What a listener of the user's own does when it runs. -/
inductive Act where
  /-- Records the request shown and the number of queued ones. -/
  | report
  | note (text : String)
  | answer (text : String)
  | interrupt (manager : Nat)
  | listen (token : Nat) (label : String) (acts : List Act)

inductive Listener where
  /-- Takes a request out of the queue. -/
  | reject (request : Nat)
  | custom (label : String) (acts : List Act)

/-- What listeners of the user's own leave behind. -/
inductive Event where
  | reported (label : String) (active : Option ActiveRequest) (pending : Nat)
  | noted (label text : String)
  | answered (label : String) (accepted : Bool)

structure Token where
  /-- Counts the tokens of one manager. -/
  generation : Nat
  aborted : Bool := false
  listeners : List (Nat × Listener) := []
  nextKey : Nat := 0
  /-- Tasks that wait for the abort. -/
  waiting : List Nat := []

structure Manager where
  /-- Where the manager's token stands among all tokens. -/
  current : Nat
  nextGeneration : Nat

structure PendingRequest where
  id : Nat
  prompt : String
  token : Nat
  /-- The key of the listener that rejects the request. -/
  listener : Option Nat := none
  /-- The task that waits for the line. -/
  task : Option Nat := none

/-- How a request is settled: with a line, or by the abort of its token. -/
inductive Reply where
  | line (text : String)
  | cancelled
  deriving DecidableEq, Repr

/-- What a task waits for. -/
inductive Stage where
  | unpolled
  | queued (request : Nat)
  | watching
  | ended
  deriving DecidableEq, Repr

inductive TaskKind where
  | request (prompt : String)
  | wait
  deriving DecidableEq, Repr

/-- Work that goes on only when it is polled. -/
structure Task where
  kind : TaskKind
  token : Nat
  stage : Stage := .unpolled
  /-- Whether it was called for since it was last polled. -/
  woken : Bool := false

structure Desk where
  tokens : List Token
  managers : List Manager
  queue : List PendingRequest := []
  /-- The request at the head of the queue, once it has been shown. -/
  active : Option Nat := none
  nextRequest : Nat := 0
  /-- Everything that was ever shown, the latest first; nothing is shown at the start. -/
  shown : List (Option ActiveRequest) := []
  /-- Replies that nobody has fetched yet. -/
  replies : List (Nat × Reply) := []
  tasks : List Task := []
  events : List Event := []

/-- What an abort still has to do. -/
inductive Errand where
  | run (listener : Listener)
  | perform (label : String) (acts : List Act)

namespace Desk

/-- A desk with so many managers, each with a token of its own. -/
def opened (managers : Nat) : Desk where
  tokens := List.replicate managers { generation := 0 }
  managers := (List.range managers).map fun k => { current := k, nextGeneration := 1 }

/-- The request that the user sees now. -/
def visible (d : Desk) : Option ActiveRequest := d.shown.head?.join

def pending (d : Desk) : Nat := d.queue.length

def isAborted (d : Desk) (token : Nat) : Bool := (d.tokens[token]?).any (·.aborted)

def generation (d : Desk) (token : Nat) : Nat := ((d.tokens[token]?).map (·.generation)).getD 0

/-- The token that new work of a manager runs under. -/
def currentToken (d : Desk) (manager : Nat) : Nat :=
  ((d.managers[manager]?).map (·.current)).getD 0

def modifyToken (d : Desk) (token : Nat) (f : Token → Token) : Desk :=
  { d with tokens := d.tokens.modify token f }

def removeListener (d : Desk) (token key : Nat) : Desk :=
  d.modifyToken token fun t => { t with listeners := t.listeners.filter (·.1 != key) }

def publish (d : Desk) (value : Option ActiveRequest) : Desk :=
  { d with shown := value :: d.shown }

def wake (d : Desk) (task : Nat) : Desk :=
  { d with tasks := d.tasks.modify task ({ · with woken := true }) }

def record (d : Desk) (event : Event) : Desk := { d with events := d.events ++ [event] }

/-- Shows the head of the queue if nothing is shown. A head whose token is aborted stays hidden; its
own listener takes it away and shows the next one. -/
def showHead (d : Desk) : Desk :=
  match d.active, d.queue with
  | none, head :: _ =>
    if d.isAborted head.token then d
    else { d with active := some head.id }.publish (some ⟨head.id, head.prompt⟩)
  | _, _ => d

/-- Hands the reply to whoever asked. -/
def settle (d : Desk) (request : PendingRequest) (reply : Reply) : Desk :=
  let d := { d with replies := d.replies ++ [(request.id, reply)] }
  match request.task with
  | some task => d.wake task
  | none => d

/-- Takes a request out of the queue, and off the screen if it is shown. -/
def take? (d : Desk) (id : Nat) : Option (PendingRequest × Desk) :=
  match d.queue.find? (·.id == id) with
  | none => none
  | some request =>
    let d := { d with queue := d.queue.eraseP (·.id == id) }
    some (request, if d.active = some id then { d with active := none } else d)

/-- Nothing is shown any more if the request was. -/
def hide (d : Desk) (wasActive : Bool) : Desk := if wasActive then d.publish none else d

/-- Settles a queued request whose token is aborted. -/
def reject (d : Desk) (id : Nat) : Desk :=
  match d.take? id with
  | none => d
  | some (request, rest) =>
    ((rest.settle request .cancelled).hide (d.active = some id)).showHead

def dropListener (d : Desk) (request : PendingRequest) : Desk :=
  match request.listener with
  | some key => d.removeListener request.token key
  | none => d

/-- Takes back a request that nobody waits for any more. -/
def withdraw (d : Desk) (id : Nat) : Desk :=
  match d.take? id with
  | none => d
  | some (request, rest) => ((rest.dropListener request).hide (d.active = some id)).showHead

/-- Answers the request that is shown, if one is; then shows the next one. -/
def answer (d : Desk) (text : String) : Bool × Desk :=
  match d.active with
  | none => (false, d)
  | some id =>
    let d := { d with active := none }
    match d.queue with
    | head :: rest =>
      if head.id = id then
        let d := { d with queue := rest }
        (true, (((d.dropListener head).settle head (.line text)).publish none).showHead)
      else (false, d)
    | [] => (false, d)

/-- Registers a listener and gives its key. On an aborted token it is an errand at once. -/
def register (d : Desk) (token : Nat) (listener : Listener) : Nat × List Errand × Desk :=
  match d.tokens[token]? with
  | none => (0, [], d)
  | some t =>
    let key := t.nextKey
    if t.aborted then (key, [.run listener], d.modifyToken token ({ · with nextKey := key + 1 }))
    else
      (key, [], d.modifyToken token fun t =>
        { t with nextKey := key + 1, listeners := t.listeners ++ [(key, listener)] })

/-- Gives a manager a fresh token and aborts the old one: whoever waits for it is woken, and its
listeners are the errands to run. -/
def retire (d : Desk) (manager : Nat) : List Errand × Desk :=
  match d.managers[manager]? with
  | none => ([], d)
  | some m =>
    let d := { d with
      tokens := d.tokens ++ [{ generation := m.nextGeneration }]
      managers := d.managers.set manager
        { current := d.tokens.length, nextGeneration := m.nextGeneration + 1 } }
    match d.tokens[m.current]? with
    | none => ([], d)
    | some t =>
      if t.aborted then ([], d)
      else
        let d := d.modifyToken m.current
          ({ · with aborted := true, listeners := [], waiting := [] })
        (t.listeners.map fun (_, listener) => .run listener, t.waiting.foldl wake d)

/-- What one act does, and the errands that come before the next one. -/
def perform (d : Desk) (label : String) : Act → List Errand × Desk
  | .report => ([], d.record (.reported label d.visible d.pending))
  | .note text => ([], d.record (.noted label text))
  | .answer text =>
    let (accepted, d) := d.answer text
    ([], d.record (.answered label accepted))
  | .interrupt manager => d.retire manager
  | .listen token label acts =>
    let (_, errands, d) := d.register token (.custom label acts)
    (errands, d)

/-- One errand, and the errands that it leaves. -/
def step (d : Desk) : Errand → List Errand × Desk
  | .run (.reject request) => ([], d.reject request)
  | .run (.custom label acts) => ([.perform label acts], d)
  | .perform _ [] => ([], d)
  | .perform label (act :: rest) =>
    let (errands, d) := d.perform label act
    (errands ++ [.perform label rest], d)

end Desk

end ScriptSession
