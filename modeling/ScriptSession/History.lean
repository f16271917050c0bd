import ScriptSession.Text.Blank
import ScriptSession.Text.Utf8

/-! The lines that were entered at the prompt, and the file that keeps them from one session to the
next. A line feed or a backslash inside a line is escaped in the file. -/
namespace ScriptSession

structure History where
  /-- How many lines are kept. -/
  limit : Nat
  lines : List String := []
  /-- Whether there is something to write: lines came in since the file was read, or the file could
  not be read to its end. -/
  changed : Bool := false
  deriving DecidableEq, Repr

namespace History

/-- Lines that start with a blank are not kept, nor is one that repeats the line before it. -/
def keeps (h : History) (line : String) : Bool :=
  0 < h.limit && (line.toList.head?).any (!Text.isBlank ·) && h.lines.getLast? != some line

/-- The oldest line goes when there are too many. -/
def push (h : History) (line : String) : History :=
  if h.keeps line then
    let lines := h.lines ++ [line]
    { h with lines := lines.drop (lines.length - h.limit), changed := true }
  else h

/-- What the first line of the file says. -/
def mark : String := "#V2"

def escape (line : List Char) : List Char :=
  line.flatMap fun
    | '\n' => ['\\', 'n']
    | '\\' => ['\\', '\\']
    | c => [c]

/-- Nothing if a backslash stands before another character or at the end. -/
def unescape? : List Char → Option (List Char)
  | [] => some []
  | '\\' :: 'n' :: rest => (unescape? rest).map ('\n' :: ·)
  | '\\' :: '\\' :: rest => (unescape? rest).map ('\\' :: ·)
  | '\\' :: _ => none
  | c :: rest => (unescape? rest).map (c :: ·)

def text (h : History) : String :=
  String.join ((mark :: h.lines.map fun line => String.ofList (escape line.toList)).map (· ++ "\n"))

/-- The lines of a file up to the first one that is no text, at most `fuel` of them, and whether
there is such a one. -/
def fileLines (bytes : List UInt8) : Nat → List String × Bool
  | 0 => ([], false)
  | fuel + 1 =>
    match Text.nextLine bytes with
    | .ok (some (line, rest)) =>
      let (lines, broken) := fileLines rest fuel
      (line :: lines, broken)
    | .ok none => ([], false)
    | .error _ => ([], true)

/-- The history in a file. A file without the mark has no escapes; a line with a wrong escape is
kept as it is. What stands before a line that is no text has to be written again. -/
def ofFile (limit : Nat) (bytes : List UInt8) : History :=
  let (lines, broken) := fileLines bytes bytes.length
  let lines :=
    if lines.head? = some mark then
      lines.tail.map fun line => ((unescape? line.toList).map String.ofList).getD line
    else lines
  let read := lines.foldl push { limit := limit }
  { read with changed := broken && !read.lines.isEmpty }

end History

end ScriptSession
