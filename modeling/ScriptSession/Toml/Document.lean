import ScriptSession.Toml.Scalar

/-! TOML documents, line by line. -/
namespace ScriptSession.Toml

open Reader

/-- How deep arrays and inline tables may stand inside each other, and how many parts a key may
have. -/
def maxDepth : Nat := 79

def isBare (c : Char) : Bool := c.isAlphanum || c = '-' || c = '_'

def simpleKey : Reader String :=
  lineString <|> (do return String.ofList ((← one isBare) :: (← takeWhile isBare)))

def key : Reader Key := do
  let part : Reader String := do
    blanks
    let name ← simpleKey
    blanks
    return name
  let first ← part
  let rest ← many (do char '.'; part)
  if rest.length < maxDepth then
    return ⟨(first :: rest).dropLast, (first :: rest).getLastD first⟩
  else failure

/-- A comma may stand behind the last item. -/
def array (item : Reader Value) : Reader Value := do
  let spaced : Reader Value := do
    gap
    let value ← item
    gap
    return value
  char '['
  let items ← (do
      let first ← spaced
      let rest ← many (do char ','; spaced)
      let _ ← optional (char ',')
      return first :: rest)
    <|> pure []
  gap
  char ']'
  return .array false items

/-- A table in one line; no comma stands behind the last entry. -/
def inlineTable (item : Reader Value) : Reader Value := do
  let pair : Reader (Key × Value) := do
    let key ← key
    char '='
    blanks
    let value ← item
    blanks
    return (key, value)
  char '\x7b'
  let pairs ← (do return (← pair) :: (← many (do char ','; pair))) <|> pure []
  blanks
  char '\x7d'
  match pairs.foldlM (fun e (key, value) => Entries.put e key.name value key.path) [] with
  | some entries => return .table .inlined entries
  | none => failure

def value : Nat → Reader Value
  | 0 => scalar
  | depth + 1 => scalar <|> array (value depth) <|> inlineTable (value depth)

/-- What one line, or the lines of one value, say. -/
inductive Line where
  | blank
  | header (key : Key)
  | itemHeader (key : Key)
  | pair (key : Key) (value : Value)

def line : Reader Line := do
  blanks
  match ← peek with
  | some '#' =>
    comment
    lineEnd
    return .blank
  | some '\n' | some '\r' =>
    newline
    return .blank
  | some '[' =>
    (do
      exactly "[["
      let key ← key
      exactly "]]"
      lineRest
      return .itemHeader key)
    <|> (do
      char '['
      let key ← key
      char ']'
      lineRest
      return .header key)
  | _ =>
    let key ← key
    char '='
    blanks
    let value ← value maxDepth
    lineRest
    return .pair key value

/-- The root table and the path of the header above the line. -/
def Entries.add (state : Entries × List String) : Line → Option (Entries × List String)
  | .blank => some state
  | .header key => (state.1.beginTable key).map fun e => (e, key.path ++ [key.name])
  | .itemHeader key => (state.1.beginItem key).map fun e => (e, key.path ++ [key.name])
  | .pair key value =>
    (within (fun e => e.put key.name value key.path) state.2 state.1).map fun e => (e, state.2)

/-- The root table of a document, if it is well formed. -/
def parse? (text : String) : Option Entries := do
  let lines ← Reader.all? (do
    let _ ← optional (char '\uFEFF')
    let found ← many line
    blanks
    return found) text
  let (entries, _) ← lines.foldlM Entries.add ([], [])
  return entries

end ScriptSession.Toml
