import ScriptSession.Diagnostic.Format
import ScriptSession.Session
import ScriptSession.Text.Utf8

/-! Batch runs: a whole script is one statement. Its output is written as it arrives and its
diagnostics at the end. Requests are answered with lines from a source of bytes; without a line the
evaluation is interrupted, and a source that cannot be read ends the run. -/
namespace ScriptSession

structure BatchOptions where
  /-- What diagnostics call the script. -/
  source : String := "<script>"
  format : DiagnosticFormat := .text
  colors : Bool := false

/-- What a batch run does to the world around it. -/
inductive Deed where
  | wrote (f : Fragment)
  /-- A line was taken from the source of answers. -/
  | took (line : String)
  deriving DecidableEq, Repr

def Deed.fragment? : Deed → Option Fragment
  | wrote f => some f
  | took _ => none

structure Batch where
  /-- The bytes that answers are still read from, if there is a source at all. -/
  answers : Option (List UInt8)
  /-- The first one first. -/
  deeds : List Deed := []
  fault : Option Text.Utf8Fault := none
  /-- Whether the script asked for a line. -/
  asked : Bool := false

namespace Batch

def written (w : Batch) : List Fragment := w.deeds.filterMap Deed.fragment?

/-- Output is written when the evaluation is looked at again. -/
def flush (live : Live) (w : Batch) : Live × Batch :=
  let (unread, live) := live.takeUnread
  (live, { w with deeds := w.deeds ++ unread.map .wrote })

def interrupted (id : Nat) (live : Live) (w : Batch) : Verdict (Option String) × Live × Batch :=
  let (line, live) := live.interrupt.takeReply id
  let (live, w) := flush live w
  (.resume line, live, w)

/-- A line is taken for the request before the output that came with it is written. -/
def awaitLine (id : Nat) (live : Live) (w : Batch) : Verdict (Option String) × Live × Batch :=
  let w := { w with asked := true }
  match w.answers with
  | none => interrupted id live w
  | some bytes =>
    match Text.nextLine bytes with
    | .error fault => (.abandon, live, { w with fault := some fault })
    | .ok none => interrupted id live w
    | .ok (some (answer, rest)) =>
      let (_, live) := live.answer answer
      let (line, live) := live.takeReply id
      let (live, w) := flush live { w with answers := some rest, deeds := w.deeds ++ [.took answer] }
      (.resume line, live, w)

def awaitTime (deadline : Nat) (live : Live) (w : Batch) : Verdict Bool × Live × Batch :=
  let (live, w) := flush live w
  (.resume true, live.advanceTo deadline, w)

def policy : Policy Batch where
  awaitLine := awaitLine
  awaitTime := awaitTime

end Batch

/-- Why a batch run gives no status. -/
inductive BatchError where
  | session (error : SessionError)
  | answers (fault : Text.Utf8Fault)
  deriving DecidableEq, Repr

/-- The error and its causes, the outermost first. -/
def BatchError.chain : BatchError → List String
  | session error => [error.message]
  | answers fault => ["failed to read readline answer", fault.message]

structure BatchResult (B : Backend) where
  session : Session B
  code : Except BatchError Nat
  stdout : String
  stderr : String
  /-- Whether the script asked for a line. -/
  asked : Bool

def BatchOptions.diagnosticLines (o : BatchOptions) (entries : List Diagnostic) : String :=
  writtenLines (o.format.lines o.colors o.source entries)

namespace Session

variable {B : Backend}

def runBatch (s : Session B) (o : BatchOptions) (answers : Option (List UInt8)) (text : String) :
    BatchResult B :=
  let done := s.evaluate Batch.policy { answers := answers } (some {}) text
  let w := done.policyState
  let ended (code : Except BatchError Nat) (fragments : List Fragment) (stderr : String) :
      BatchResult B :=
    { session := done.session, code := code, stdout := writtenLines (fragments.map (·.text))
      stderr := stderr, asked := w.asked }
  match w.fault, done.result with
  | some fault, _ => ended (.error (.answers fault)) w.written ""
  | none, some (.ok evaluation) =>
    ended (.ok evaluation.exitCode) (w.written ++ done.unread) (o.diagnosticLines evaluation.logs)
  | none, some (.error error) => ended (.error (.session error)) (w.written ++ done.unread) ""
  | none, none => ended (.error (.session .terminated)) (w.written ++ done.unread) ""

/-- Looks for errors without running anything. -/
def checkBatch (s : Session B) (o : BatchOptions) (text : String) : Nat × String :=
  let entries := s.check text
  (if hasErrors entries then 1 else 0, o.diagnosticLines entries)

end Session

end ScriptSession
