/-! Readers of the start of a text: a reader gives what it found and the rest, or nothing. -/
namespace ScriptSession.Toml

abbrev Reader := StateT (List Char) Option

namespace Reader

variable {α : Type}

/-- The next character, which stays where it is. -/
def peek : Reader (Option Char) := fun cs => some (cs.head?, cs)

def one (p : Char → Bool) : Reader Char := fun
  | c :: rest => if p c then some (c, rest) else none
  | [] => none

def char (c : Char) : Reader Unit := do let _ ← one (· = c)

/-- Exactly these characters. -/
def exactly (text : String) : Reader Unit := text.toList.forM char

def takeWhile (p : Char → Bool) : Reader (List Char) := fun cs =>
  some (cs.takeWhile p, cs.dropWhile p)

/-- As often as it goes, up to a number of times. -/
def upTo (r : Reader α) : Nat → Reader (List α)
  | 0 => pure []
  | n + 1 => (do return (← r) :: (← upTo r n)) <|> pure []

/-- As often as it goes, for a reader that takes something each time: never more often than
there are characters. -/
def many (r : Reader α) : Reader (List α) := fun cs =>
  match r cs with
  | none => some ([], cs)
  | some (first, rest) =>
    (upTo r rest.length rest).map fun (others, rest) => (first :: others, rest)

def atEnd : Reader Unit := fun cs => if cs.isEmpty then some ((), cs) else none

/-- All of a text. -/
def all? (r : Reader α) (text : String) : Option α :=
  let whole : Reader α := do
    let a ← r
    atEnd
    return a
  (whole.run text.toList).map (·.1)

def isBlank (c : Char) : Bool := c = ' ' || c = '\t'

def blanks : Reader Unit := do let _ ← takeWhile isBlank

def newline : Reader Unit := char '\n' <|> exactly "\r\n"

/-- Characters that stand for themselves in comments and, delimiters aside, in strings. -/
def isPlain (c : Char) : Bool := c = '\t' || (' ' ≤ c && c ≤ '~') || '\x80' ≤ c

/-- A comment up to the end of its line. -/
def comment : Reader Unit := do
  char '#'
  let _ ← takeWhile isPlain

def lineEnd : Reader Unit := newline <|> atEnd

/-- What may stand behind the content of a line. -/
def lineRest : Reader Unit := do
  blanks
  let _ ← optional comment
  lineEnd

/-- Blanks, line ends and comments. -/
def gap : Reader Unit := do
  let _ ← many ((do let _ ← one isBlank) <|> newline <|> (do comment; newline))

end Reader

end ScriptSession.Toml
