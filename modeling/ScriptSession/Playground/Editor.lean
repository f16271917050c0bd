import ScriptSession.Text.Blank
import ScriptSession.Total

/-! The editor of the playground: several lines of text with a cursor. The cursor counts the bytes
in front of it and always stands between two characters. -/
namespace ScriptSession.Playground

inductive Key where
  | char (c : Char)
  | enter
  | escape
  | tab
  | backspace
  | delete
  | left
  | right
  | up
  | down
  | home
  | lineEnd
  | pageUp
  | pageDown
  | other
  deriving DecidableEq, Repr

def byteLength (cs : List Char) : Nat := total Char.utf8Size cs

/-- The longest start of a text that fits into so many bytes, and the rest. -/
def splitBytes (n : Nat) : List Char → List Char × List Char
  | [] => ([], [])
  | c :: rest =>
    if c.utf8Size ≤ n then
      let (front, back) := splitBytes (n - c.utf8Size) rest
      (c :: front, back)
    else ([], c :: rest)

/-- The pieces between line feeds; there is always one. -/
def textLines : List Char → List (List Char)
  | [] => [[]]
  | c :: rest =>
    if c = '\n' then [] :: textLines rest
    else
      match textLines rest with
      | [] => [[c]]
      | line :: lines => (c :: line) :: lines

structure Editor where
  buffer : List Char := []
  cursor : Nat := 0
  /-- The first line in view. -/
  scroll : Nat := 0
  deriving DecidableEq, Repr

namespace Editor

def text (e : Editor) : String := String.ofList e.buffer

/-- The text in front of the cursor and the text behind it. -/
def split (e : Editor) : List Char × List Char := splitBytes e.cursor e.buffer

def setText (e : Editor) (text : String) : Editor :=
  { e with buffer := text.toList, cursor := byteLength text.toList }

def clear (_ : Editor) : Editor := {}

def isBlank (e : Editor) : Bool := e.buffer.all Text.isBlank

def insert (e : Editor) (c : Char) : Editor :=
  let (front, back) := e.split
  { e with buffer := front ++ c :: back, cursor := e.cursor + c.utf8Size }

def deleteBackward (e : Editor) : Editor :=
  let (front, back) := e.split
  match front.getLast? with
  | none => e
  | some c => { e with buffer := front.dropLast ++ back, cursor := e.cursor - c.utf8Size }

def deleteForward (e : Editor) : Editor :=
  let (front, back) := e.split
  { e with buffer := front ++ back.tail }

def moveLeft (e : Editor) : Editor :=
  match e.split.1.getLast? with
  | none => e
  | some c => { e with cursor := e.cursor - c.utf8Size }

def moveRight (e : Editor) : Editor :=
  match e.split.2.head? with
  | none => e
  | some c => { e with cursor := e.cursor + c.utf8Size }

/-- Line and column of the cursor, counted in characters from zero. -/
def place (e : Editor) : Nat × Nat :=
  let lines := textLines e.split.1
  (lines.length - 1, (lines.getLastD []).length)

/-- Where a line and a column stand; a column behind the end of its line means the end. -/
def offsetOf (e : Editor) (row column : Nat) : Nat :=
  let lines := textLines e.buffer
  match lines[row]? with
  | none => byteLength e.buffer
  | some line =>
    total (byteLength · + 1) (lines.take row) + byteLength (line.take column)

def moveUp (e : Editor) : Editor :=
  let (row, column) := e.place
  if row = 0 then e else { e with cursor := e.offsetOf (row - 1) column }

def moveDown (e : Editor) : Editor :=
  let (row, column) := e.place
  if row + 1 < (textLines e.buffer).length then { e with cursor := e.offsetOf (row + 1) column }
  else e

def moveToLineStart (e : Editor) : Editor := { e with cursor := e.offsetOf e.place.1 0 }

/-- No line is longer than the whole text. -/
def moveToLineEnd (e : Editor) : Editor :=
  { e with cursor := e.offsetOf e.place.1 e.buffer.length }

/-- What a key does to the text or the cursor. -/
def press (e : Editor) (key : Key) (control : Bool) : Editor :=
  match key with
  | .char c => if control then e else e.insert c
  | .enter => e.insert '\n'
  | .tab => (e.insert ' ').insert ' '
  | .backspace => e.deleteBackward
  | .delete => e.deleteForward
  | .left => e.moveLeft
  | .right => e.moveRight
  | .up => e.moveUp
  | .down => e.moveDown
  | .home => e.moveToLineStart
  | .lineEnd => e.moveToLineEnd
  | .escape | .pageUp | .pageDown | .other => e

end Editor

end ScriptSession.Playground
