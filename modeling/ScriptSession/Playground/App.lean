import ScriptSession.Playground.Dialog
import ScriptSession.Playground.Transcript
import ScriptSession.Session.Evaluation
import ScriptSession.Session.Stats

/-! The state of the playground and what the user's events do to it. Evaluation itself goes on
outside: events give actions, and the start, the requests and the end of a run are told. -/
namespace ScriptSession.Playground

inductive Action where
  | nothing
  | quit
  | run (text : String)
  | abort
  | answer (text : String)
  deriving DecidableEq, Repr

inductive Status where
  | blank
  | running
  | waiting
  | finished (stats : Stats)
  deriving DecidableEq, Repr

def Status.text : Status → String
  | .blank => ""
  | .running => "Running"
  | .waiting => "Waiting for input"
  | .finished stats => s!"{stats.count} evaluations, {stats.total.shortText} total"

inductive KeyKind where
  | press
  | release
  | repeated
  deriving DecidableEq, Repr

inductive UserEvent where
  | key (key : Key) (control : Bool) (kind : KeyKind)
  | scrollUp
  | scrollDown
  | other
  deriving DecidableEq, Repr

structure App where
  editor : Editor := {}
  transcript : Transcript := {}
  dialog : Option Dialog := none
  running : Bool := false
  status : Status := .blank
  deriving DecidableEq, Repr

/-- What diagnostics call the script in the editor. -/
def sourceName : String := "playground"

namespace App

def ofSource (text : String) : App := { editor := ({} : Editor).setText text }

/-- An open dialog takes every key but those that quit or abort. -/
def pressInDialog (a : App) (dialog : Dialog) (key : Key) (control : Bool) : Action × App :=
  if control && key = .char 'q' then (.quit, a)
  else if control && key = .char 'r' then (.abort, a)
  else
    match dialog.press key control with
    | .editing dialog => (.nothing, { a with dialog := some dialog })
    | .submitted answer => (.answer answer, { a with dialog := none })
    | .dismissed => (.abort, a)

def runAction (a : App) : Action :=
  if a.running then .abort
  else if a.editor.isBlank then .nothing
  else .run a.editor.text

def pressInEditor (a : App) (key : Key) (control : Bool) : Action × App :=
  let edited := (.nothing, { a with editor := a.editor.press key control })
  match key with
  | .char 'q' => if control then (.quit, a) else edited
  | .char 'r' => if control then (a.runAction, a) else edited
  | .char 'c' => if control && a.running then (.abort, a) else edited
  | .char 'l' =>
    if control then (.nothing, { a with transcript := a.transcript.clear }) else edited
  | .escape => if a.running then (.abort, a) else edited
  | .pageUp => (.nothing, { a with transcript := a.transcript.scrollUp 5 })
  | .pageDown => (.nothing, { a with transcript := a.transcript.scrollDown 5 })
  | _ => edited

def press (a : App) (key : Key) (control : Bool) : Action × App :=
  match a.dialog with
  | some dialog => a.pressInDialog dialog key control
  | none => a.pressInEditor key control

def handle (a : App) : UserEvent → Action × App
  | .key key control .press => a.press key control
  | .key _ _ .release | .key _ _ .repeated => (.nothing, a)
  | .scrollUp => (.nothing, { a with transcript := a.transcript.scrollUp 3 })
  | .scrollDown => (.nothing, { a with transcript := a.transcript.scrollDown 3 })
  | .other => (.nothing, a)

def beginRun (a : App) (text : String) : App :=
  { a with running := true, status := .running, transcript := a.transcript.pushInput text }

/-- A request that is shown already keeps its dialog. -/
def setRequest (a : App) : Option ActiveRequest → App
  | some request =>
    if a.dialog.any (·.request == request.id) then a
    else { a with status := .waiting, dialog := some (.ofRequest request) }
  | none => if a.dialog.isSome then { a with status := .running, dialog := none } else a

def notice (a : App) (text : String) : App := { a with transcript := a.transcript.pushNotice text }

/-- Ends a run, and says whether the session is over. -/
def finishRun (a : App) (result : Except SessionError Evaluation) (stats : Stats) : Bool × App :=
  let a := { a with running := false, dialog := none, status := .finished stats }
  match result with
  | .ok evaluation =>
    let a := { a with transcript := a.transcript.pushDiagnostics sourceName evaluation.logs }
    let a := if evaluation.cancelled then a.notice "(Interrupted)" else a
    let a := if evaluation.shouldExit then a.notice "(Exited)" else a
    (evaluation.shouldExit, a)
  | .error .terminated => (true, a)
  | .error error => (false, a.notice error.message)

end App

end ScriptSession.Playground
