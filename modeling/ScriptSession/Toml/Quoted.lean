import ScriptSession.Toml.Reader

/-! Strings: with or without escapes, in one line or in several. -/
namespace ScriptSession.Toml

open Reader

def isHexDigit (c : Char) : Bool := c.isDigit || ('a' ≤ c && c ≤ 'f') || ('A' ≤ c && c ≤ 'F')

def digitValue (c : Char) : Nat :=
  if c.isDigit then c.toNat - '0'.toNat
  else if 'a' ≤ c then c.toNat - 'a'.toNat + 10
  else c.toNat - 'A'.toNat + 10

def numberOf (base : Nat) (digits : List Char) : Nat :=
  digits.foldl (fun n c => n * base + digitValue c) 0

/-- A character by its number in so many hexadecimal digits. -/
def codePoint (digits : Nat) : Reader Char := do
  let found ← (List.replicate digits ()).mapM fun _ => one isHexDigit
  let n := numberOf 16 found
  if n.isValidChar then return Char.ofNat n else failure

/-- The rest of an escape behind its backslash. -/
def escape : Reader Char := do
  match ← one fun _ => true with
  | 'b' => return '\x08'
  | 't' => return '\t'
  | 'n' => return '\n'
  | 'f' => return '\x0c'
  | 'r' => return '\r'
  | '"' => return '"'
  | '\\' => return '\\'
  | 'u' => codePoint 4
  | 'U' => codePoint 8
  | _ => failure

/-- A character of a string with escapes. -/
def escapable : Reader Char :=
  one (fun c => isPlain c && c != '"' && c != '\\') <|> (do char '\\'; escape)

def literal : Reader Char := one fun c => isPlain c && c != '\''

/-- A string in one line. -/
def lineString : Reader String :=
  let delimited (delimiter : Char) (content : Reader Char) : Reader String := do
    char delimiter
    let found ← many content
    char delimiter
    return String.ofList found
  delimited '"' escapable <|> delimited '\'' literal

/-- A backslash at the end of a line, and all blanks and line ends behind it. -/
def continued : Reader (List Char) := do
  char '\\'
  blanks
  newline
  let _ ← many ((do let _ ← one isBlank) <|> newline)
  return []

/-- One or two delimiters that do not end a string of several lines. -/
def loneDelimiters (delimiter : Char) : Reader (List Char) := fun cs =>
  let run := cs.takeWhile (· = delimiter)
  if 0 < run.length ∧ run.length < 3 then some (run, cs.dropWhile (· = delimiter)) else none

/-- A string of several lines. A line end right behind the opening delimiters is not part of it, and
up to two delimiters may stand right before the closing ones. -/
def blockString : Reader String :=
  let delimited (delimiter : Char) (content : Reader (List Char)) : Reader String := do
    let fence := exactly (String.ofList (List.replicate 3 delimiter))
    fence
    let _ ← optional newline
    let found ← many (content <|> (do newline; return ['\n']) <|> loneDelimiters delimiter)
    let last ← (do exactly (String.ofList (List.replicate 5 delimiter)); return 2)
      <|> (do exactly (String.ofList (List.replicate 4 delimiter)); return 1)
      <|> (do fence; return 0)
    return String.ofList (found.flatten ++ List.replicate last delimiter)
  delimited '"' (continued <|> (do return [← escapable]))
    <|> delimited '\'' (do return [← literal])

def anyString : Reader String := blockString <|> lineString

end ScriptSession.Toml
