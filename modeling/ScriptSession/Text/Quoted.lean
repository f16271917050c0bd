import ScriptSession.Text.Printable

/-! Quoted texts: double quotes around the characters, each of which shows as itself, as an escape
of one letter or as its code point. -/
namespace ScriptSession.Text

/-- The code point in hexadecimal digits, lower case and without leading zeros. -/
def hexDigits (n : Nat) : List Char := Nat.toDigits 16 n

/-- How a character stands inside double quotes. An apostrophe needs no escape there. -/
def quotedChar (c : Char) : List Char :=
  match c with
  | '"' => ['\\', '"']
  | '\\' => ['\\', '\\']
  | '\n' => ['\\', 'n']
  | '\r' => ['\\', 'r']
  | '\t' => ['\\', 't']
  | '\x00' => ['\\', '0']
  | c => if isPrinted c then [c] else ['\\', 'u', '{'] ++ hexDigits c.toNat ++ ['}']

def quoted (text : String) : String :=
  String.ofList ('"' :: text.toList.flatMap quotedChar ++ ['"'])

end ScriptSession.Text
