import ScriptSession.Session
import ScriptSession.Diagnostic.Format

/-! Statements at a prompt: output is written as it arrives, a request that comes into view starts a
read of a line with its prompt, and the user may interrupt at any time. At most one read is open.

All that is one loop. A turn of it ends with the first thing that is ready, and output goes before the
evaluation, then an interrupt, then a new request, then the read. -/
namespace ScriptSession

/-- What a read gives. -/
inductive Read where
  | line (text : String) (after : Nat)
  | interrupted
  | endOfInput
  | never
  | broken (message : String)
  deriving DecidableEq, Repr

/-- When a read that starts now is over, if ever. -/
def Read.readyAt (clock : Nat) : Read → Option Nat
  | line _ after => some (clock + after)
  | interrupted | endOfInput | broken _ => some clock
  | never => none

/-- A read that is under way. -/
structure OpenRead where
  read : Read
  ready : Option Nat

/-- How long each turn of the loop may take before the user interrupts it; none for ever. -/
abbrev Interrupts := Nat → Option Nat

/-- What the loop does, and what comes to it. -/
inductive Occurrence where
  | wrote (f : Fragment)
  /-- A read starts, with the prompt of the request. -/
  | began (request : ActiveRequest)
  /-- The read is over. -/
  | came (read : Read)
  | interrupted
  deriving DecidableEq, Repr

namespace Occurrence

def fragment? : Occurrence → Option Fragment
  | wrote f => some f
  | _ => none

def request? : Occurrence → Option ActiveRequest
  | began request => some request
  | _ => none

end Occurrence

structure Drive where
  /-- What the next reads give; after them the input is at its end. -/
  reads : List Read
  openRead : Option OpenRead := none
  /-- How many changes of the request in view have been noticed. -/
  noticed : Nat
  /-- How many turns are over. -/
  turns : Nat := 0
  /-- When the present turn began. -/
  since : Nat := 0
  /-- The first one first. -/
  past : List Occurrence := []
  /-- Why reading failed. -/
  failure : Option String := none

namespace Drive

/-- The turn is over. -/
def turn (w : Drive) (clock : Nat) : Drive := { w with turns := w.turns + 1, since := clock }

def record (w : Drive) (o : Occurrence) : Drive := { w with past := w.past ++ [o] }

def startRead (w : Drive) (clock : Nat) (request : ActiveRequest) : Drive :=
  let read := w.reads.headD .endOfInput
  { w.record (.began request) with
    reads := w.reads.tail
    openRead := some ⟨read, read.readyAt clock⟩ }

/-- Whether the request in view has changed; nobody looks while a read is open. -/
def sees (live : Live) (w : Drive) : Bool :=
  w.openRead.isNone && w.noticed != live.desk.shown.length

def notice (live : Live) (w : Drive) : Drive :=
  let w := { w.turn live.clock with noticed := live.desk.shown.length }
  match live.desk.visible with
  | some request => w.startRead live.clock request
  | none => w

/-- One turn for each fragment. -/
def flush (live : Live) (w : Drive) : Live × Drive :=
  let (unread, live) := live.takeUnread
  if unread.isEmpty then (live, w)
  else
    (live, { w with
      past := w.past ++ unread.map .wrote, turns := w.turns + unread.length, since := live.clock })

/-- Whether a time comes before another one, which may never come. -/
def before (a : Nat) : Option Nat → Bool
  | none => true
  | some b => a < b

/-- When the user interrupts, should the present turn take so long. -/
def interruptAt (interrupts : Interrupts) (w : Drive) : Option Nat :=
  (interrupts w.turns).map (w.since + ·)

/-- What comes first and when: the read that is over, or none if it is the interrupt. -/
def next (interrupts : Interrupts) (w : Drive) : Option (Nat × Option Read) :=
  let interrupt := interruptAt interrupts w
  match w.openRead with
  | some ⟨read, some ready⟩ =>
    if before ready interrupt then some (ready, some read) else interrupt.map (·, none)
  | _ => interrupt.map (·, none)

/-- What happens at once when the evaluation starts to wait: unless something else is due, a request
is noticed and the output is written. -/
def look (interrupts : Interrupts) (live : Live) (w : Drive) : Live × Drive :=
  if (next interrupts w).any (·.1 ≤ live.clock) then (live, w)
  else flush live (if w.sees live then notice live w else w)

/-- Before the evaluation is looked at again, its output is written. -/
def interrupt (live : Live) (w : Drive) : Live × Drive := flush live.interrupt (w.record .interrupted)

/-- What a read does, or without one the user's interrupt. -/
def respond (live : Live) (w : Drive) : Option Read → Live × Drive
  | none => interrupt live (w.turn live.clock)
  | some read =>
    let w := { (w.turn live.clock).record (.came read) with openRead := none }
    match read with
    | .line text _ => flush (live.answer text).2 w
    | .interrupted | .endOfInput | .never => interrupt live w
    | .broken message => (live, { w with failure := some message })

def awaitLine (interrupts : Interrupts) (id : Nat) (live : Live) (w : Drive) :
    Verdict (Option String) × Live × Drive :=
  let (live, w) := look interrupts live w
  match next interrupts w with
  | none => (.abandon, live, w)
  | some (clock, read) =>
    let (live, w) := respond (live.advanceTo clock) w read
    if w.failure.isSome then (.abandon, live, w)
    else
      let (line, live) := live.takeReply id
      (.resume line, live, w)

/-- Whether what is due at this time comes before the pause is over. The evaluation has just been
looked at, so what is due by now does, even if the pause takes no time. -/
def comesFirst (live : Live) (clock deadline : Nat) : Bool := clock < deadline || clock ≤ live.clock

/-- Waits until the deadline unless an interrupt comes first. -/
def awaitTimeAlone (interrupts : Interrupts) (deadline : Nat) (live : Live) (w : Drive) :
    Verdict Bool × Live × Drive :=
  match interruptAt interrupts w with
  | some clock =>
    if comesFirst live clock deadline then
      let live := live.advanceTo clock
      let (live, w) := interrupt live (w.turn live.clock)
      (.resume false, live, w)
    else (.resume true, live.advanceTo deadline, w)
  | none => (.resume true, live.advanceTo deadline, w)

/-- A line that comes while the evaluation pauses answers nothing. -/
def awaitTime (interrupts : Interrupts) (deadline : Nat) (live : Live) (w : Drive) :
    Verdict Bool × Live × Drive :=
  let (live, w) := look interrupts live w
  match next interrupts w with
  | some (clock, some read) =>
    if comesFirst live clock deadline then
      let (live, w) := respond (live.advanceTo clock) w (some read)
      if w.failure.isSome then (.abandon, live, w)
      else if live.isAborted then (.resume false, live, w)
      else awaitTimeAlone interrupts deadline live w
    else (.resume true, live.advanceTo deadline, w)
  | _ => awaitTimeAlone interrupts deadline live w

def policy (interrupts : Interrupts) : Policy Drive where
  awaitLine := awaitLine interrupts
  awaitTime := awaitTime interrupts

end Drive

structure Driven (B : Backend) where
  session : Session B
  /-- The result, or why reading failed. -/
  result : Except String (Except SessionError Evaluation)
  past : List Occurrence
  /-- Reads that were not needed. -/
  reads : List Read

namespace Driven

variable {B : Backend}

def stdout (d : Driven B) : String :=
  writtenLines ((d.past.filterMap Occurrence.fragment?).map (·.text))

/-- The prompts of all reads. -/
def prompts (d : Driven B) : List String := (d.past.filterMap Occurrence.request?).map (·.prompt)

end Driven

namespace Session

variable {B : Backend}

/-- Evaluates a statement at the prompt. What is left of the output is written at the end. -/
def driveUnder (s : Session B) (reads : List Read) (interrupts : Interrupts) (text : String) :
    Driven B :=
  let w : Drive := { reads := reads, noticed := s.desk.shown.length }
  let done := s.evaluate (Drive.policy interrupts) w (some {}) text
  let w := done.policyState
  { session := done.session
    result := match w.failure, done.result with
      | some message, _ => .error message
      | none, some result => .ok result
      | none, none => .error "nothing ends the wait"
    past := match w.failure with
      | some _ => w.past
      | none => w.past ++ done.unread.map .wrote
    reads := w.reads }

/-- The user interrupts whenever nothing happens for so many milliseconds. -/
def drive (s : Session B) (reads : List Read) (every : Option Nat) (text : String) : Driven B :=
  s.driveUnder reads (fun _ => every) text

end Session

end ScriptSession
