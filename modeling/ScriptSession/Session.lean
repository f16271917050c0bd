import ScriptSession.Assembler
import ScriptSession.Diagnostic.Journal
import ScriptSession.Session.Evaluation
import ScriptSession.Session.Running
import ScriptSession.Session.Stats

/-! A session evaluates one logical statement at a time under the cancellation token that is current
when the statement starts. Everything that an evaluation installs is taken away again when it ends,
also when it is given up halfway. -/
namespace ScriptSession

inductive SessionState where
  | idle
  /-- A continued statement is being assembled. -/
  | buffering
  | evaluating
  /-- Every further statement is refused. -/
  | exited
  deriving DecidableEq, Repr

structure Session (B : Backend) where
  environment : B.Environment := B.initial
  journal : Journal := {}
  stats : Stats := {}
  assembler : Assembler := {}
  desk : Desk := .opened 1
  console : Console := {}
  state : SessionState := .idle
  continuationPrompt : String := ".."

/-- What an evaluation leaves: its result, unless it was given up, the output that was passed on and
not read, and the state of the policy. -/
structure Evaluated (B : Backend) (ω : Type) where
  session : Session B
  result : Option (Except SessionError Evaluation)
  unread : List Fragment := []
  policyState : ω

/-- An evaluation that has started. -/
structure Started (B : Backend) where
  session : Session B
  process : Process B.Environment Finish
  live : Live
  scope : Nat

/-- What becomes of a text at first: it is refused, rejected with diagnostics, or started. -/
inductive Admission (B : Backend) where
  | refused
  | rejected (session : Session B) (evaluation : Evaluation)
  | started (started : Started B)

namespace Session

variable {B : Backend}

def prompt (s : Session B) : String := B.prompt s.environment

/-- The prompt for the next line. -/
def currentPrompt (s : Session B) : String :=
  if s.assembler.isBuffering then s.continuationPrompt else s.prompt

def bindings (s : Session B) : List Binding := B.bindings s.environment

/-- What is wrong with a text that is not evaluated. -/
def check (_ : Session B) (text : String) : List Diagnostic :=
  match B.statements text with
  | .ok _ => []
  | .error entries => entries

/-- Retires the current token and nothing else. -/
def interruptEvaluation (s : Session B) : Session B := { s with desk := s.desk.interrupt 0 }

/-- Retires the current token and forgets a statement that is only partly there. -/
def interrupt (s : Session B) : Session B :=
  { s.interruptEvaluation with
    assembler := s.assembler.reset
    state := if s.state = .buffering then .idle else s.state }

def answer (s : Session B) (text : String) : Bool × Session B :=
  let (accepted, desk) := s.desk.answer text
  (accepted, { s with desk := desk })

/-- Starts over with a fresh environment; an exited session stays exited. -/
def reset (s : Session B) : Session B :=
  { s with
    environment := B.initial
    journal := s.journal.clear
    stats := {}
    assembler := s.assembler.reset
    state := if s.state = .exited then .exited else .idle }

/-- Adds a line to the statement being assembled. -/
def assemble (s : Session B) (line : String) :
    Except SessionError (Option LogicalStatement) × Session B :=
  if s.state = .exited then (.error .terminated, s)
  else
    match s.assembler.submit line with
    | (none, assembler) => (.ok none, { s with assembler := assembler, state := .buffering })
    | (some statement, assembler) =>
      (.ok (some statement), { s with assembler := assembler, state := .idle })

/-- Counts an evaluation, whatever its outcome. -/
def record (s : Session B) (millis : Nat) : Session B :=
  { s with stats := s.stats.record (.ofMillis millis) }

/-- Reads the statements of a text and, if there are no errors, gets ready to run them. -/
def accept (s : Session B) (channel : Option Channel) (text : String) : Admission B :=
  if s.state = .exited then .refused
  else
    let s := { s with journal := s.journal.clear }
    match B.statements text with
    | .error entries =>
      let (logs, journal) := (s.journal.addAll entries).take
      .rejected ({ s with journal := journal }.record 0) { logs := logs }
    | .ok statements =>
      let (console, collector) := s.console.addCollector channel
      let (console, scope) := console.capture collector
      .started
        { session := { s with state := .evaluating }
          process := B.run statements s.environment
          live :=
            { desk := s.desk, console := console, token := s.desk.currentToken 0
              collector := collector }
          scope := scope }

/-- The result of an evaluation that ran to its end, with the journal that it leaves. -/
def conclude (journal : Journal) (finish : Finish) (collected : Collected)
    (warnings : List Diagnostic) : Except SessionError Evaluation × Journal :=
  match finish with
  | .crashed chain => (.error (.evaluator chain), journal.clear)
  | .cancelled => (.ok { cancelled := true, fragments := collected.fragments }, journal.clear)
  | .failed message range =>
    let (logs, journal) := ((journal.add (.error message range)).addAll warnings).take
    (.ok { logs := logs, fragments := collected.fragments }, journal)
  | .completed =>
    let (logs, journal) := (journal.addAll warnings).take
    (.ok { output := some collected.output, logs := logs, fragments := collected.fragments },
      journal)
  | .exited =>
    let (logs, journal) := (journal.addAll warnings).take
    (.ok { output := some collected.output, logs := logs, shouldExit := true
           fragments := collected.fragments }, journal)

/-- Puts a session together again after a run. -/
def settle (started : Started B) (ending : Ending B.Environment) (live : Live) :
    Option (Except SessionError Evaluation) × Session B :=
  let (collected, console) := (live.console.release started.scope).finish live.collector
  let s := { started.session with
    desk := live.desk
    console := console.forgetFrom live.collector
    state := .idle }.record live.clock
  match ending with
  | .givenUp env => (none, { s with environment := env, journal := s.journal.clear })
  | .finished env finish =>
    let (result, journal) := conclude s.journal finish collected live.warnings
    (some result,
      { s with
        environment := env
        journal := journal
        state := if finish = .exited then .exited else .idle })

/-- Evaluates a logical statement under a policy. With a channel, output is passed on as it
arrives. -/
def evaluate {ω : Type} (s : Session B) (policy : Policy ω) (w : ω) (channel : Option Channel)
    (text : String) : Evaluated B ω :=
  match s.accept channel text with
  | .refused => { session := s, result := some (.error .terminated), policyState := w }
  | .rejected session evaluation =>
    { session := session, result := some (.ok evaluation), policyState := w }
  | .started started =>
    let (ending, live, w) := started.process.play policy started.live w
    let (result, session) := settle started ending live
    { session := session, result := result, unread := live.unread, policyState := w }

end Session

end ScriptSession
