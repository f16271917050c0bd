import ScriptSession.Diagnostic

/-! Diagnostics as lines for people: source, range, kind and message between colons. -/
namespace ScriptSession.Diagnostic

/-- Bold text in a color of the terminal. -/
def painted (color : String) (text : String) : String :=
  s!"\x1b[1m\x1b[{color}m{text}\x1b[39m\x1b[0m"

def coloredKind : Severity → String
  | .error => painted "31" Severity.error.name
  | .warning => painted "33" Severity.warning.name

def line (colors : Bool) (source : String) (d : Diagnostic) : String :=
  let kind := if colors then coloredKind d.severity else d.severity.name
  match d.range with
  | some range => s!"{source}:{range.text}: {kind}: {d.message}"
  | none => s!"{source}: {kind}: {d.message}"

end ScriptSession.Diagnostic
