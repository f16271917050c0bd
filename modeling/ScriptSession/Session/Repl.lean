import ScriptSession.Session.Command
import ScriptSession.Session.Drive
import ScriptSession.Product
import ScriptSession.Text.Backspace
import ScriptSession.Text.Utf8

/-! The prompt: line after line is a command to the session or a part of a statement, until the
input ends, a command or a script asks for the end, or a line cannot be read. -/
namespace ScriptSession

/-- What diagnostics call a statement that was entered at the prompt. -/
def replSource : String := "repl"

def replGreeting : String :=
  s!"{Product.name} {Product.version} - Type :help for assistance\n"
    ++ "Press Ctrl+D or :quit to exit\n\n"

structure Repl where
  stdout : String := replGreeting
  stderr : String := ""
  /-- What was not read. -/
  reads : List Read
  /-- Why reading failed. -/
  failure : Option String := none

namespace Repl

variable {B : Backend}

def say (r : Repl) (text : String) : Repl := { r with stdout := r.stdout ++ text ++ "\n" }

/-- Shows how a statement ended; says whether the session goes on. -/
def report (r : Repl) (colors : Bool) : Except SessionError Evaluation → Bool × Repl
  | .ok evaluation =>
    let logs := writtenLines (evaluation.logs.map (·.line colors replSource))
    let r := { r with stderr := r.stderr ++ logs }
    (!evaluation.shouldExit, if evaluation.cancelled then r.say "(Interrupted)" else r)
  | .error .terminated => (false, r)
  | .error error => (true, { r with stderr := r.stderr ++ error.message ++ "\n" })

/-- Evaluates a statement, whose requests are answered from the lines that follow. -/
def evaluate (r : Repl) (colors : Bool) (s : Session B) (text : String) :
    Bool × Repl × Session B :=
  let done := s.drive r.reads none text
  let r := { r with stdout := r.stdout ++ done.stdout, reads := done.reads }
  match done.result with
  | .error message => (false, { r with failure := some message }, done.session)
  | .ok result =>
    let (goesOn, r) := r.report colors result
    (goesOn, r, done.session)

/-- What one line does; says whether the session goes on. -/
def enter (r : Repl) (colors : Bool) (s : Session B) (line : String) : Bool × Repl × Session B :=
  if s.isCommand line then
    match s.command line with
    | (.exit, s) => (false, r, s)
    | (.nothing, s) => (true, r, s)
    | (.output text, s) => (true, r.say text, s)
  else
    match s.assemble line with
    | (.error .terminated, s) => (false, r, s)
    | (.error error, s) => (false, { r with failure := some error.message }, s)
    | (.ok none, s) => (true, r, s)
    | (.ok (some statement), s) => r.evaluate colors s statement.text

/-- Reads on; each line is read once, so there are never more turns than lines. -/
def loop (colors : Bool) : Nat → Repl → Session B → Repl
  | 0, r, _ => r
  | turns + 1, r, s =>
    match r.reads with
    | [] | .endOfInput :: _ | .never :: _ => r
    | .broken message :: rest => { r with reads := rest, failure := some message }
    | .interrupted :: rest =>
      loop colors turns ({ r with reads := rest }.say "(Interrupted)") s.interrupt
    | .line text _ :: rest =>
      let (goesOn, r, s) := { r with reads := rest }.enter colors s text
      if goesOn then loop colors turns r s else r

end Repl

def Session.repl {B : Backend} (s : Session B) (colors : Bool) (reads : List Read) : Repl :=
  Repl.loop colors reads.length { reads := reads } s

/-- The lines of the input as their backspaces leave them; the first one that is no text cannot be
read. -/
def inputReads (bytes : List UInt8) : Nat → List Read
  | 0 => []
  | fuel + 1 =>
    match Text.nextLine bytes with
    | .ok (some (line, rest)) => .line (Text.withoutBackspaces line) 0 :: inputReads rest fuel
    | .ok none => []
    | .error _ => [.broken "readline error: stream did not contain valid UTF-8"]

end ScriptSession
