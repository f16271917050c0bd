import ScriptSession.Process
import ScriptSession.Text.Blank

/-! A backend whose statements are single words, to watch a session with. Some words reach what the
command language never does; all others are collected in the environment. -/
namespace ScriptSession.Words

/-- The words between semicolons, without blanks around them. -/
def split (text : String) : List String :=
  ((text.splitOn ";").map fun part => String.ofList (Text.trim part.toList)).filter (· ≠ "")

/-- A parenthesis that is never closed and the word `reject` are refused. -/
def statements (text : String) : Except (List Diagnostic) (List String) :=
  if text.toList.contains '(' && !text.toList.contains ')' then
    .error [.error "unclosed '('" (some (.point ⟨1, text.utf8ByteSize + 1, 0⟩))]
  else
    let words := split text
    match words.findIdx? (· == "reject") with
    | some index => .error [.warning s!"rejected at {index}" none, .error "rejected" none]
    | none => .ok words

def uppercase (word : String) : String := word.map Char.toUpper

def reduce (words : List String) (word : String) : Process (List String) Outcome :=
  match word with
  | "exit" => .done words .exit
  | "unit" => .done words .unit
  | "boom" => .done words (.failed "boom" none)
  | "crash" => .done words (.crashed ["crash", "cause"])
  | "cancel" => .done words .cancelled
  | "check" => .call words .aborted fun aborted =>
    .done words (if aborted then .cancelled else .unit)
  | "state" => .call words .generation fun generation =>
    .call words .aborted fun aborted => .call words .consoleDepth fun depth =>
      .done words (.value s!"{generation}:{aborted}:{depth}")
  | "ask" => .call words (.readLine "? ") fun line =>
    .done words (match line with
      | some line => .value line
      | none => .cancelled)
  | "shout" => .call words (.emit (.console .debug "loud")) fun _ => .done words .unit
  | "careful" => .call words (.warn "careful" none) fun _ => .done words .unit
  | word => .done (words ++ [word]) (.value (uppercase word))

def language : Backend where
  Environment := List String
  Statement := String
  initial := []
  statements := statements
  reduce := reduce
  prompt words := s!"[{words.length}]> "
  bindings _ := []

end ScriptSession.Words
