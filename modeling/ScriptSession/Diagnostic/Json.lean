import ScriptSession.Diagnostic

/-! Diagnostics as lines for programs: one JSON object each, without blanks. -/
namespace ScriptSession.Diagnostic

def hexDigit (n : Nat) : Char := (Nat.toDigits 16 n).headD '0'

/-- How a character stands in a JSON string: only quotes, backslashes and controls are escaped. -/
def jsonChar (c : Char) : List Char :=
  match c with
  | '"' => ['\\', '"']
  | '\\' => ['\\', '\\']
  | '\x08' => ['\\', 'b']
  | '\x0c' => ['\\', 'f']
  | '\n' => ['\\', 'n']
  | '\r' => ['\\', 'r']
  | '\t' => ['\\', 't']
  | c =>
    if c.toNat < 0x20 then ['\\', 'u', '0', '0', hexDigit (c.toNat / 16), hexDigit (c.toNat % 16)]
    else [c]

def jsonString (text : String) : String :=
  String.ofList ('"' :: text.toList.flatMap jsonChar ++ ['"'])

/-- A JSON object from its keys and the texts of its values. -/
def jsonObject (fields : List (String × String)) : String :=
  let members := fields.map fun (key, value) => jsonString key ++ ":" ++ value
  "\x7b" ++ ",".intercalate members ++ "\x7d"

def jsonPosition (p : Position) : String :=
  jsonObject [("line", toString p.line), ("column", toString p.column)]

def jsonRange : Option Span → String
  | some range => jsonObject [("start", jsonPosition range.start), ("end", jsonPosition range.stop)]
  | none => "null"

def jsonLine (source : String) (d : Diagnostic) : String :=
  jsonObject [("source", jsonString source), ("kind", jsonString d.severity.name),
    ("message", jsonString d.message), ("range", jsonRange d.range)]

end ScriptSession.Diagnostic
