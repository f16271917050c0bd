import ScriptSession.Diagnostic
import ScriptSession.Script.Lexeme
import ScriptSession.Text.Quoted

/-! Tokens of a script. Blanks, comments and joined line breaks leave no token; every piece that is
wrong leaves its errors, and one error is enough to refuse the text. -/
namespace ScriptSession.Script

inductive TokenKind where
  | openParen
  | closeParen
  | int (value : Int64)
  | str (text : String)
  | word (name : String)
  /-- The end of a statement outside parentheses. -/
  | separator
  deriving DecidableEq, Repr

def TokenKind.describe : TokenKind → String
  | .openParen => "'('"
  | .closeParen => "')'"
  | .int value => s!"integer {value.toInt}"
  | .str text => s!"string {Text.quoted text}"
  | .word name => s!"'{name}'"
  | .separator => "end of statement"

structure Token where
  kind : TokenKind
  span : Span
  deriving DecidableEq, Repr

inductive LexicalCause where
  | unexpectedCharacter (c : Char)
  | unterminatedString
  | invalidEscape (c : Char)
  | numberOutOfRange (literal : String)
  deriving DecidableEq, Repr

def LexicalCause.message : LexicalCause → String
  | .unexpectedCharacter c => s!"unexpected character '{c}'"
  | .unterminatedString => "unterminated string"
  | .invalidEscape c => s!"invalid escape sequence '\\{c}'"
  | .numberOutOfRange literal => s!"integer literal '{literal}' out of range"

structure LexicalError where
  cause : LexicalCause
  span : Span
  deriving DecidableEq, Repr

def LexicalError.diagnostic (e : LexicalError) : Diagnostic :=
  .error e.cause.message (some e.span)

/-- What a backslash and a character stand for inside a string; a line break there is joined. -/
def escapeMeaning? : Char → Option (List Char)
  | 'n' => some ['\n']
  | 't' => some ['\t']
  | 'r' => some ['\r']
  | '\\' => some ['\\']
  | '"' => some ['"']
  | '0' => some ['\x00']
  | '\n' => some []
  | _ => none

def StringPart.meaning : StringPart → List Char
  | .plain c => [c]
  | .escaped c => (escapeMeaning? c).getD []

/-- Escapes without a meaning, each at the character behind its backslash; `p` is the place of the
first part. -/
def escapeErrors (p : Position) : List StringPart → List LexicalError
  | [] => []
  | .plain c :: rest => escapeErrors (p.after c) rest
  | .escaped c :: rest =>
    let here := p.after '\\'
    let later := escapeErrors (here.after c) rest
    if (escapeMeaning? c).isSome then later
    else { cause := .invalidEscape c, span := .point here } :: later

/-- The digits of a number with its sign, without underscores. -/
def numberDigits (literal : List Char) : List Char := literal.filter (· ≠ '_')

def digitsValue (digits : List Char) : Nat :=
  digits.foldl (fun n c => 10 * n + (c.toNat - '0'.toNat)) 0

def numberValue (literal : List Char) : Int :=
  match numberDigits literal with
  | '-' :: digits => -(digitsValue digits : Int)
  | digits => digitsValue digits

/-- The word of 64 bits that holds an integer, if there is one. -/
def int64? (n : Int) : Option Int64 :=
  if Int64.minValue.toInt ≤ n ∧ n ≤ Int64.maxValue.toInt then some (Int64.ofInt n) else none

/-- The token of a piece that starts at `p`. A number out of range counts as zero; its error refuses
the text anyway. -/
def Lexeme.token? (p : Position) (l : Lexeme) : Option Token :=
  let token (kind : TokenKind) : Option Token := some { kind := kind, span := .ofText p l.text }
  match l with
  | .separator _ => token .separator
  | .openParen => token .openParen
  | .closeParen => token .closeParen
  | .number literal => token (.int ((int64? (numberValue literal)).getD 0))
  | .word name => token (.word (String.ofList name))
  | .string parts .closed => token (.str (String.ofList (parts.flatMap StringPart.meaning)))
  | .string .. | .blank _ | .comment _ | .join _ | .stray _ => none

/-- The errors of a piece that starts at `p`, in the order of their places. -/
def Lexeme.errors (p : Position) (l : Lexeme) : List LexicalError :=
  match l with
  | .stray c => [{ cause := .unexpectedCharacter c, span := .point p }]
  | .number literal =>
    if (int64? (numberValue literal)).isSome then []
    else
      [{ cause := .numberOutOfRange (String.ofList (numberDigits literal))
         span := .ofText p l.text }]
  | .string parts ending =>
    escapeErrors (p.after '"') parts ++
      if ending = .closed then [] else [{ cause := .unterminatedString, span := .point p }]
  | .blank _ | .comment _ | .join _ | .separator _ | .openParen | .closeParen | .word _ => []

/-- The tokens of a text, or all of its errors. -/
def tokenize (text : String) : Except (List LexicalError) (List Token) :=
  let pieces := located .first (lexemes text.toList)
  match pieces.flatMap fun (p, l) => l.errors p with
  | [] => .ok (pieces.filterMap fun (p, l) => l.token? p)
  | errors => .error errors

end ScriptSession.Script
