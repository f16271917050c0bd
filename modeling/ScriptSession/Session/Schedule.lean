import ScriptSession.Session

/-! Schedules of what happens to an evaluation from outside: answers, interrupts and the decision to
give it up. A scheduled event waits until the evaluation cannot go on by itself; one without a time
waits for a request. When the schedule is over, requests are interrupted. -/
namespace ScriptSession

inductive Action where
  | answer (text : String)
  | interrupt
  | abandon
  deriving DecidableEq, Repr

/-- Actions that happen at once, after some milliseconds or, without a time, at the next request. -/
structure Scheduled where
  after : Option Nat := none
  actions : List Action
  deriving DecidableEq, Repr

/-- What an action gave. -/
inductive Response where
  | answered (accepted : Bool)
  | retired (generation : Nat) (aborted : Bool)
  deriving DecidableEq, Repr

/-- An event that happened: the request shown before it, and what its actions gave; nothing if the
evaluation was given up. -/
structure Happened where
  request : Option ActiveRequest
  responses : Option (List Response)
  deriving DecidableEq, Repr

structure Schedule where
  upcoming : List Scheduled
  /-- When the next event happens, once the evaluation has waited for it. -/
  due : Option Nat := none
  trace : List Happened := []

namespace Schedule

/-- Retires the session's token and says which one it was. -/
def retire (desk : Desk) : Response × Desk :=
  let token := desk.currentToken 0
  let desk := desk.interrupt 0
  (.retired (desk.generation token) (desk.isAborted token), desk)

/-- The actions in order, up to one that gives the evaluation up. -/
def act (live : Live) : List Action → Option (List Response) × Live
  | [] => (some [], live)
  | .answer text :: rest =>
    let (accepted, live) := live.answer text
    let (responses, live) := act live rest
    (responses.map (.answered accepted :: ·), live)
  | .interrupt :: rest =>
    let (response, desk) := retire live.desk
    let (responses, live) := act { live with desk := desk } rest
    (responses.map (response :: ·), live)
  | .abandon :: _ => (none, live)

/-- Notes an event. -/
def note (w : Schedule) (request : Option ActiveRequest) (responses : Option (List Response)) :
    Schedule :=
  { w with due := none, trace := w.trace ++ [⟨request, responses⟩] }

/-- When an event with a time happens if the evaluation starts to wait for it now. -/
def dueTime (w : Schedule) (live : Live) (after : Nat) : Nat := w.due.getD (live.clock + after)

def awaitLine (id : Nat) (live : Live) (w : Schedule) : List Scheduled →
    Verdict (Option String) × Live × Schedule
  | [] =>
    let (responses, live') := act live [.interrupt]
    let (line, live') := live'.takeReply id
    (.resume line, live', { w.note live.desk.visible responses with upcoming := [] })
  | event :: rest =>
    let live := match event.after with
      | some after => live.advanceTo (w.dueTime live after)
      | none => live
    let (responses, live') := act live event.actions
    let w := { w.note live.desk.visible responses with upcoming := rest }
    match responses with
    | none => (.abandon, live', w)
    | some _ =>
      match live'.reply? id with
      | some (line, live') => (.resume line, live', w)
      | none => awaitLine id live' w rest

def awaitTime (deadline : Nat) (live : Live) (w : Schedule) : List Scheduled →
    Verdict Bool × Live × Schedule
  | [] => (.resume true, live.advanceTo deadline, w)
  | event :: rest =>
    match event.after with
    | none => (.resume true, live.advanceTo deadline, w)
    | some after =>
      let due := w.dueTime live after
      if deadline < due then (.resume true, live.advanceTo deadline, { w with due := some due })
      else
        let live := live.advanceTo due
        let (responses, live') := act live event.actions
        let w := { w.note live.desk.visible responses with upcoming := rest }
        match responses with
        | none => (.abandon, live', w)
        | some _ =>
          if live'.isAborted then (.resume false, live', w)
          else awaitTime deadline live' w rest

def policy : Policy Schedule where
  awaitLine id live w := awaitLine id live w w.upcoming
  awaitTime deadline live w := awaitTime deadline live w w.upcoming

end Schedule

namespace Session

variable {B : Backend}

/-- Evaluates a statement while the events happen. -/
def evaluateScheduled (s : Session B) (events : List Scheduled) (channel : Option Channel)
    (text : String) : Evaluated B Schedule :=
  s.evaluate Schedule.policy { upcoming := events } channel text

/-- What becomes of one line: the statement goes on, or was evaluated. -/
inductive LineOutcome where
  | continuation
  | evaluated (result : Option (Except SessionError Evaluation))

/-- Adds a line and evaluates the statement once it is complete. -/
def submit {ω : Type} (s : Session B) (policy : Policy ω) (w : ω) (line : String) :
    LineOutcome × ω × Session B :=
  match s.assemble line with
  | (.error error, s) => (.evaluated (some (.error error)), w, s)
  | (.ok none, s) => (.continuation, w, s)
  | (.ok (some statement), s) =>
    let done := s.evaluate policy w none statement.text
    (.evaluated done.result, done.policyState, done.session)

/-- Adds a line while the events happen. -/
def submitLine (s : Session B) (events : List Scheduled) (line : String) :
    LineOutcome × List Happened × Session B :=
  let (outcome, w, s) := s.submit Schedule.policy { upcoming := events } line
  (outcome, w.trace, s)

/-- Evaluates a text whose requests nobody can answer. -/
def evaluateAlone (s : Session B) (text : String) : Evaluated B Schedule :=
  s.evaluateScheduled [] none text

end Session

end ScriptSession
