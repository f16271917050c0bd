import ScriptSession.Span
import ScriptSession.Text.Identifier

/-! The smallest pieces of a script. Every character of a text belongs to exactly one piece, so the
pieces written one after another are the text again (`text_lexemes`). -/
namespace ScriptSession.Script

/-- One character between the quotes, or a backslash with the character behind it. -/
inductive StringPart where
  | plain (c : Char)
  | escaped (c : Char)
  deriving DecidableEq, Repr

def StringPart.text : StringPart → List Char
  | .plain c => [c]
  | .escaped c => ['\\', c]

/-- How a string ends: with its quote, at the end of the line or of the text, or with a backslash
at the end of the text. -/
inductive StringEnd where
  | closed
  | cut
  | cutAfterBackslash
  deriving DecidableEq, Repr

def StringEnd.text : StringEnd → List Char
  | .closed => ['"']
  | .cut => []
  | .cutAfterBackslash => ['\\']

inductive Lexeme where
  /-- A blank, a tab or a carriage return. -/
  | blank (c : Char)
  /-- From `#` to the end of the line. -/
  | comment (body : List Char)
  /-- A backslash at the end of a line or of the text, with the line break behind it. -/
  | join (lineEnd : List Char)
  /-- A line break or a semicolon. -/
  | separator (c : Char)
  | openParen
  | closeParen
  /-- Digits with single underscores between them, perhaps behind a minus sign. -/
  | number (literal : List Char)
  | word (name : List Char)
  | string (parts : List StringPart) (ending : StringEnd)
  /-- A character that starts nothing. -/
  | stray (c : Char)
  deriving DecidableEq, Repr

def Lexeme.text : Lexeme → List Char
  | .blank c => [c]
  | .comment body => '#' :: body
  | .join lineEnd => '\\' :: lineEnd
  | .separator c => [c]
  | .openParen => ['(']
  | .closeParen => [')']
  | .number literal => literal
  | .word name => name
  | .string parts ending => '"' :: (parts.flatMap StringPart.text ++ ending.text)
  | .stray c => [c]

def isBlankInLine (c : Char) : Bool := c = ' ' || c = '\t' || c = '\r'

def isSeparator (c : Char) : Bool := c = '\n' || c = ';'

def isIdentifierStart (c : Char) : Bool := c = '_' || Text.isXidStart c

def isIdentifierPart (c : Char) : Bool :=
  c = '-' || c = '?' || c = '!' || Text.isXidContinue c

/-- What a backslash joins: the end of the text, or a line break, perhaps behind a carriage
return. -/
def lineEnd? : List Char → Option (List Char × List Char)
  | [] => some ([], [])
  | '\n' :: rest => some (['\n'], rest)
  | ['\r'] => some (['\r'], [])
  | '\r' :: '\n' :: rest => some (['\r', '\n'], rest)
  | _ => none

/-- Digits, with an underscore wherever a digit follows it. -/
def splitDigits : List Char → List Char × List Char
  | [] => ([], [])
  | [c] => if c.isDigit then ([c], []) else ([], [c])
  | c :: d :: rest =>
    if c.isDigit || (c = '_' && d.isDigit) then
      let (digits, rest) := splitDigits (d :: rest)
      (c :: digits, rest)
    else ([], c :: d :: rest)

/-- The rest of a string behind its opening quote. -/
def splitString : List Char → List StringPart × StringEnd × List Char
  | [] => ([], .cut, [])
  | ['\\'] => ([], .cutAfterBackslash, [])
  | '\\' :: c :: rest =>
    let (parts, ending, rest) := splitString rest
    (.escaped c :: parts, ending, rest)
  | '"' :: rest => ([], .closed, rest)
  | '\n' :: rest => ([], .cut, '\n' :: rest)
  | c :: rest =>
    let (parts, ending, rest) := splitString rest
    (.plain c :: parts, ending, rest)

def startsWithDigit : List Char → Bool
  | [] => false
  | c :: _ => c.isDigit

/-- The first piece of a text that starts with `c`, and the text behind it. -/
def Lexeme.split (c : Char) (rest : List Char) : Lexeme × List Char :=
  if isBlankInLine c then (.blank c, rest)
  else if isSeparator c then (.separator c, rest)
  else if c = '#' then (.comment (rest.takeWhile (· ≠ '\n')), rest.dropWhile (· ≠ '\n'))
  else if c = '\\' then
    match lineEnd? rest with
    | some (lineEnd, rest) => (.join lineEnd, rest)
    | none => (.stray c, rest)
  else if c = '(' then (.openParen, rest)
  else if c = ')' then (.closeParen, rest)
  else if c = '"' then
    let (parts, ending, rest) := splitString rest
    (.string parts ending, rest)
  else if c.isDigit || (c = '-' && startsWithDigit rest) then
    let (digits, rest) := splitDigits rest
    (.number (c :: digits), rest)
  else if isIdentifierStart c then
    (.word (c :: rest.takeWhile isIdentifierPart), rest.dropWhile isIdentifierPart)
  else (.stray c, rest)

theorem lineEnd?_append {cs lineEnd rest : List Char} (h : lineEnd? cs = some (lineEnd, rest)) :
    lineEnd ++ rest = cs := by
  unfold lineEnd? at h
  split at h <;> simp_all
  all_goals obtain ⟨rfl, rfl⟩ := h; rfl

theorem splitDigits_append (cs : List Char) : (splitDigits cs).1 ++ (splitDigits cs).2 = cs := by
  fun_induction splitDigits cs <;> simp_all

theorem splitString_append (cs : List Char) :
    (splitString cs).1.flatMap StringPart.text ++ (splitString cs).2.1.text
      ++ (splitString cs).2.2 = cs := by
  fun_induction splitString cs <;> simp_all [StringPart.text, StringEnd.text]

theorem Lexeme.split_append (c : Char) (rest : List Char) :
    (Lexeme.split c rest).1.text ++ (Lexeme.split c rest).2 = c :: rest := by
  unfold Lexeme.split
  split
  · rfl
  split
  · rfl
  split
  · simp_all [Lexeme.text, List.takeWhile_append_dropWhile]
  split
  · split
    · rename_i h; simp_all [Lexeme.text, lineEnd?_append h]
    · rfl
  split
  · simp_all [Lexeme.text]
  split
  · simp_all [Lexeme.text]
  split
  · have := splitString_append rest
    simp_all [Lexeme.text]
  split
  · have := splitDigits_append rest
    simp_all [Lexeme.text]
  split
  · simp [Lexeme.text, List.takeWhile_append_dropWhile]
  · rfl

theorem Lexeme.text_split_ne_nil (c : Char) (rest : List Char) :
    (Lexeme.split c rest).1.text ≠ [] := by
  unfold Lexeme.split
  repeat' split
  all_goals simp [Lexeme.text]

theorem Lexeme.length_split (c : Char) (rest : List Char) :
    (Lexeme.split c rest).2.length < (c :: rest).length := by
  have length := congrArg List.length (Lexeme.split_append c rest)
  have nonempty := List.length_pos_iff.mpr (Lexeme.text_split_ne_nil c rest)
  simp only [List.length_append] at length
  omega

/-- The pieces of a text in order. -/
def lexemes : List Char → List Lexeme
  | [] => []
  | c :: rest => (Lexeme.split c rest).1 :: lexemes (Lexeme.split c rest).2
  termination_by cs => cs.length
  decreasing_by exact Lexeme.length_split c rest

/-- Nothing is lost and nothing is moved. -/
theorem text_lexemes (cs : List Char) : (lexemes cs).flatMap Lexeme.text = cs := by
  fun_induction lexemes cs with
  | case1 => rfl
  | case2 c rest ih => rw [List.flatMap_cons, ih, Lexeme.split_append]

/-- The pieces with the places where they start. -/
def located (p : Position) : List Lexeme → List (Position × Lexeme)
  | [] => []
  | l :: rest => (p, l) :: located (p.afterAll l.text) rest

end ScriptSession.Script
