/-! Places in a text and the stretches between them. Lines and columns count from one and columns
count characters; offsets count bytes from zero. -/
namespace ScriptSession

structure Position where
  line : Nat
  column : Nat
  offset : Nat
  deriving DecidableEq, Repr

namespace Position

/-- The first character of a text. -/
def first : Position := ⟨1, 1, 0⟩

/-- The place behind a character: a line break starts the next line. -/
def after (p : Position) (c : Char) : Position :=
  if c = '\n' then ⟨p.line + 1, 1, p.offset + c.utf8Size⟩
  else ⟨p.line, p.column + 1, p.offset + c.utf8Size⟩

def afterAll (p : Position) (text : List Char) : Position := text.foldl after p

/-- Same line and column; offsets do not count. -/
def samePlace (p q : Position) : Bool := p.line == q.line && p.column == q.column

def text (p : Position) : String := s!"{p.line}:{p.column}"

theorem afterAll_append (p : Position) (a b : List Char) :
    p.afterAll (a ++ b) = (p.afterAll a).afterAll b := List.foldl_append

end Position

/-- From the first character to the last one. The offset of `stop` lies behind the last character
of a longer stretch; a stretch of one character is a point. -/
structure Span where
  start : Position
  stop : Position
  deriving DecidableEq, Repr

namespace Span

def point (p : Position) : Span := ⟨p, p⟩

/-- The stretch of a text that starts at `p`. -/
def ofText (p : Position) (text : List Char) : Span :=
  if text.dropLast.isEmpty then point p
  else { start := p, stop := { p.afterAll text.dropLast with offset := (p.afterAll text).offset } }

/-- The smallest stretch over both, as far as offsets tell. -/
def merge (a b : Span) : Span where
  start := if b.start.offset < a.start.offset then b.start else a.start
  stop := if b.stop.offset > a.stop.offset then b.stop else a.stop

def isPoint (s : Span) : Bool := s.start.samePlace s.stop

def length (s : Span) : Nat := s.stop.offset - s.start.offset

def isEmpty (s : Span) : Bool := s.start.offset == s.stop.offset

/-- One place for a point, two for a longer stretch. -/
def text (s : Span) : String :=
  if s.isPoint then s.start.text else s!"{s.start.text}:{s.stop.text}"

end Span

end ScriptSession
