import ScriptSession.Desk.Errands

/-! Asking for a line and waiting for an abort, as tasks that go on only when they are polled. A
task that has to wait leaves word where it waits, and is woken from there. -/
namespace ScriptSession.Desk

/-- Why an answer was not accepted. -/
def noActiveRequest : String := "no readline request is waiting for an answer"

/-- Why a request got no line. -/
def readlineCancelled : String := "readline cancelled"

/-- Queues a request under a token that is not aborted, with the listener that rejects it. -/
def enqueue (d : Desk) (prompt : String) (token : Nat) (task : Option Nat) : Nat × Desk :=
  let id := d.nextRequest
  let (key, errands, d) := { d with nextRequest := id + 1 }.register token (.reject id)
  let request : PendingRequest :=
    { id := id, prompt := prompt, token := token, listener := some key, task := task }
  let d := { d with queue := d.queue ++ [request] }
  (id, (d.runAll errands).showHead)

/-- The reply to a request, which is fetched only once. -/
def fetch? (d : Desk) (id : Nat) : Option (Reply × Desk) :=
  match d.replies.find? (·.1 == id) with
  | some (_, reply) => some (reply, { d with replies := d.replies.eraseP (·.1 == id) })
  | none => none

/-- What polling a task finds. -/
inductive Poll where
  | pending
  | settled (reply : Reply)
  | aborted
  | gone
  deriving DecidableEq, Repr

def setStage (d : Desk) (k : Nat) (stage : Stage) : Desk :=
  { d with tasks := d.tasks.modify k ({ · with stage := stage }) }

/-- A new task and its number. Nothing happens before it is polled. -/
def addTask (d : Desk) (kind : TaskKind) (token : Nat) : Nat × Desk :=
  (d.tasks.length, { d with tasks := d.tasks ++ [{ kind := kind, token := token }] })

/-- Waits for the abort of the token from now on. -/
def watch (d : Desk) (k token : Nat) : Desk :=
  (d.modifyToken token fun t => { t with waiting := t.waiting ++ [k] }).setStage k .watching

def pollStage (d : Desk) (k : Nat) (task : Task) : Poll × Desk :=
  match task.stage, task.kind with
  | .unpolled, .request prompt =>
    if d.isAborted task.token then (.settled .cancelled, d.setStage k .ended)
    else
      let (id, d) := d.enqueue prompt task.token (some k)
      (.pending, d.setStage k (.queued id))
  | .unpolled, .wait =>
    if d.isAborted task.token then (.aborted, d.setStage k .ended)
    else (.pending, d.watch k task.token)
  | .queued id, _ =>
    match d.fetch? id with
    | some (reply, d) => (.settled reply, d.setStage k .ended)
    | none => (.pending, d)
  | .watching, _ =>
    if d.isAborted task.token then (.aborted, d.setStage k .ended) else (.pending, d)
  | .ended, _ => (.gone, d)

/-- Polling answers the call that woke the task. -/
def poll (d : Desk) (k : Nat) : Poll × Desk :=
  match d.tasks[k]? with
  | none => (.gone, d)
  | some task =>
    match task.stage with
    | .ended => (.gone, d)
    | _ => { d with tasks := d.tasks.modify k ({ · with woken := false }) }.pollStage k task

/-- Gives a task up: its request leaves the queue. -/
def dropTask (d : Desk) (k : Nat) : Desk :=
  match d.tasks[k]? with
  | none => d
  | some task =>
    let d := d.setStage k .ended
    match task.stage with
    | .queued id =>
      let d := d.withdraw id
      { d with replies := d.replies.eraseP (·.1 == id) }
    | .watching =>
      d.modifyToken task.token fun t => { t with waiting := t.waiting.erase k }
    | .unpolled | .ended => d

end ScriptSession.Desk
