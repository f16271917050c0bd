import ScriptSession.Diagnostic.Text
import ScriptSession.Output
import ScriptSession.Playground.Editor

/-! The transcript of the playground: scripts, results, messages and diagnostics in the order of
their arrival. It follows the newest line until it is scrolled back. -/
namespace ScriptSession.Playground

inductive Marker where
  | input
  | result
  | console (level : Level)
  | diagnostic (severity : Severity)
  | notice
  deriving DecidableEq, Repr

def Marker.ofOrigin : Origin → Marker
  | .result => .result
  | .console level => .console level

/-- The sign in front of an entry, two cells wide. -/
def Marker.symbol : Marker → String
  | .input => "» "
  | .result => "= "
  | .console .log => "  "
  | .console .debug => "· "
  | .console .info => "i "
  | .console .warn | .diagnostic .warning => "! "
  | .console .error | .diagnostic .error => "x "
  | .notice => "- "

structure Entry where
  marker : Marker
  text : String
  deriving DecidableEq, Repr

def Entry.lines (e : Entry) : List (List Char) := textLines e.text.toList

/-- Older entries are forgotten beyond this number. -/
def maxEntries : Nat := 1000

/-- The largest number of lines that scrolling counts. -/
def maxLines : Nat := 65535

structure Transcript where
  entries : List Entry := []
  /-- Lines between the last line in view and the last one of all. -/
  scrollBack : Nat := 0
  deriving DecidableEq, Repr

/-- A line as it is shown. -/
structure TranscriptLine where
  marker : Marker
  symbol : String
  text : String
  deriving DecidableEq, Repr

namespace Transcript

/-- A new entry brings the newest line into view. -/
def push (t : Transcript) (marker : Marker) (text : String) : Transcript :=
  let entries := t.entries ++ [⟨marker, text⟩]
  { entries := entries.drop (entries.length - maxEntries), scrollBack := 0 }

/-- A script is shown without the blanks at its end. -/
def pushInput (t : Transcript) (text : String) : Transcript :=
  t.push .input (String.ofList (text.toList.reverse.dropWhile Text.isBlank).reverse)

def pushFragment (t : Transcript) (f : Fragment) : Transcript :=
  t.push (.ofOrigin f.origin) f.text

def pushNotice (t : Transcript) (text : String) : Transcript := t.push .notice text

def pushDiagnostics (t : Transcript) (source : String) (entries : List Diagnostic) : Transcript :=
  entries.foldl (fun t d => t.push (.diagnostic d.severity) (d.line false source)) t

def clear (_ : Transcript) : Transcript := {}

def lineCount (t : Transcript) : Nat := min maxLines (total (·.lines.length) t.entries)

/-- One line always stays in view. -/
def scrollUp (t : Transcript) (lines : Nat) : Transcript :=
  { t with scrollBack := min (min maxLines (t.scrollBack + lines)) (t.lineCount - 1) }

def scrollDown (t : Transcript) (lines : Nat) : Transcript :=
  { t with scrollBack := t.scrollBack - lines }

/-- Only the first line of an entry has its sign. -/
def lines (t : Transcript) : List TranscriptLine :=
  t.entries.flatMap fun entry =>
    entry.lines.zipIdx.map fun (line, i) =>
      ⟨entry.marker, if i = 0 then entry.marker.symbol else "  ", String.ofList line⟩

/-- The first line in view where so many fit. -/
def top (t : Transcript) (height : Nat) : Nat := t.lineCount - height - t.scrollBack

end Transcript

end ScriptSession.Playground
