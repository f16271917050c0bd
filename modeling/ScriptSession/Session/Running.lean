import ScriptSession.Console
import ScriptSession.Desk.Task
import ScriptSession.Process

/-! Evaluations under way. A run answers the calls of a process from the desk, the console and the
clock. Where the process waits, a policy decides what happens until the wait is over: it may answer
the request, interrupt, let time pass, or give the evaluation up. -/
namespace ScriptSession

/-- How the statements of an evaluation end. -/
inductive Finish where
  | completed
  | exited
  | failed (message : String) (range : Option Span)
  | cancelled
  | crashed (chain : List String)
  deriving DecidableEq, Repr

/-- The statements one after another, until one of them does not complete. No statement starts after
the evaluation is cancelled. -/
def Backend.run (B : Backend) : List B.Statement → B.Environment → Process B.Environment Finish
  | [], env => .done env .completed
  | statement :: rest, env => .call env .aborted fun aborted =>
    if aborted then .done env .cancelled
    else (B.reduce env statement).bind fun env outcome =>
      match outcome with
      | .value text => .call env (.emit (.result text)) fun _ => run B rest env
      | .unit => run B rest env
      | .exit => .done env .exited
      | .failed message range => .done env (.failed message range)
      | .cancelled => .done env .cancelled
      | .crashed chain => .done env (.crashed chain)

/-- What an evaluation has around it. -/
structure Live where
  desk : Desk
  console : Console
  /-- The token that was current when the evaluation started. -/
  token : Nat
  /-- The number of the collector that takes the output. -/
  collector : Nat
  warnings : List Diagnostic := []
  /-- Milliseconds since the start. -/
  clock : Nat := 0

namespace Live

def isAborted (live : Live) : Bool := live.desk.isAborted live.token

/-- A result goes to the evaluation's own collector, a message to the innermost one. -/
def emit (live : Live) (f : Fragment) : Live :=
  { live with console :=
      if f.isResult then live.console.pushResult live.collector f.text else live.console.emit f }

def warn (live : Live) (message : String) (range : Option Span) : Live :=
  { live with warnings := live.warnings ++ [.warning message range] }

/-- Output that nobody has read yet. -/
def unread (live : Live) : List Fragment := ((live.console.receive? live.collector).1).getD []

def takeUnread (live : Live) : List Fragment × Live :=
  (live.unread, { live with console := (live.console.receive? live.collector).2 })

/-- A session has one manager. -/
def interrupt (live : Live) : Live := { live with desk := live.desk.interrupt 0 }

def answer (live : Live) (text : String) : Bool × Live :=
  let (accepted, desk) := live.desk.answer text
  (accepted, { live with desk := desk })

def advanceTo (live : Live) (clock : Nat) : Live := { live with clock := max live.clock clock }

/-- Whether the evaluation waits for the request, and if not, the line or its absence. -/
def reply? (live : Live) (request : Nat) : Option (Option String × Live) :=
  (live.desk.fetch? request).map fun (reply, desk) =>
    (match reply with
      | .line text => some text
      | .cancelled => none, { live with desk := desk })

/-- Takes a line that must be there by now; without one the request counts as cancelled. -/
def takeReply (live : Live) (request : Nat) : Option String × Live :=
  (live.reply? request).getD (none, live)

end Live

/-- How a wait ends: the evaluation goes on with a reply, or is given up. -/
inductive Verdict (ρ : Type) where
  | resume (reply : ρ)
  | abandon

structure Policy (ω : Type) where
  /-- Until the request with this number is settled. -/
  awaitLine : Nat → Live → ω → Verdict (Option String) × Live × ω
  /-- Until the clock shows this time or the evaluation is cancelled. The time may have come already,
  and even then the timer may suspend the evaluation. -/
  awaitTime : Nat → Live → ω → Verdict Bool × Live × ω

/-- Where a run ends, with the state that the process shows there. -/
inductive Ending (σ : Type) where
  | finished (state : σ) (finish : Finish)
  | givenUp (state : σ)

/-- Runs a process to its end. -/
def Process.play {σ ω : Type} (policy : Policy ω) :
    Process σ Finish → Live → ω → Ending σ × Live × ω
  | .done s finish, live, w => (.finished s finish, live, w)
  | .call s request resume, live, w =>
    match request, resume with
    | .emit f, resume => play policy (resume ()) (live.emit f) w
    | .warn message range, resume => play policy (resume ()) (live.warn message range) w
    | .aborted, resume => play policy (resume live.isAborted) live w
    | .generation, resume => play policy (resume (live.desk.generation live.token)) live w
    | .consoleDepth, resume => play policy (resume live.console.depth) live w
    | .readLine prompt, resume =>
      if live.isAborted then play policy (resume none) live w
      else
        let (id, desk) := live.desk.enqueue prompt live.token none
        match policy.awaitLine id { live with desk := desk } w with
        | (.resume line, live, w) => play policy (resume line) live w
        | (.abandon, live, w) => (.givenUp s, { live with desk := live.desk.withdraw id }, w)
    | .sleep millis, resume =>
      if live.isAborted then play policy (resume false) live w
      else
        match policy.awaitTime (live.clock + millis) live w with
        | (.resume passed, live, w) => play policy (resume passed) live w
        | (.abandon, live, w) => (.givenUp s, live, w)

end ScriptSession
