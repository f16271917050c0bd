import ScriptSession.Toml
import ScriptSession.Toml.Quoted

/-! Values without parts: strings, truth values, numbers and dates. -/
namespace ScriptSession.Toml

open Reader

/-- Digits, with single underscores between them. -/
def digits (isDigit : Char → Bool) : Reader (List Char) := do
  let first ← one isDigit
  let rest ← many (one isDigit <|> (do char '_'; one isDigit))
  return first :: rest

/-- Decimal digits without a zero in front. -/
def decimal : Reader (List Char) := do
  match ← peek with
  | some '0' => return [← one (· = '0')]
  | _ => digits Char.isDigit

/-- Whether a minus sign stands here. -/
def sign : Reader Bool :=
  (do char '-'; return true) <|> (do char '+'; return false) <|> pure false

/-- A whole number in a signed word of 64 bits. Only decimals have a sign. -/
def integer : Reader Int := do
  let n ← (do exactly "0x"; return (numberOf 16 (← digits isHexDigit) : Int))
    <|> (do exactly "0o"; return (numberOf 8 (← digits fun c => '0' ≤ c && c ≤ '7') : Int))
    <|> (do exactly "0b"; return (numberOf 2 (← digits fun c => c = '0' || c = '1') : Int))
    <|> (do
      let negative ← sign
      let n := numberOf 10 (← decimal)
      return if negative then -(n : Int) else n)
  if Int64.minValue.toInt ≤ n ∧ n ≤ Int64.maxValue.toInt then return n else failure

/-- Numbers from here on are nearer to infinity than to any double. -/
def floatLimit : Nat := Nat.pow 2 1024 - Nat.pow 2 970

/-- Whether `n * 10 ^ exponent` lies below the limit; where the number of digits decides, nothing
is computed. -/
def isFinite (n : Nat) (exponent : Int) : Bool :=
  let size := (Nat.toDigits 10 n).length + exponent
  n = 0 || size < 300 ||
    (size < 320 && (if 0 ≤ exponent then n * Nat.pow 10 exponent.toNat < floatLimit
      else n < floatLimit * Nat.pow 10 (-exponent).toNat))

def exponentPart : Reader Int := do
  let _ ← one fun c => c = 'e' || c = 'E'
  let negative ← sign
  let n := numberOf 10 (← digits Char.isDigit)
  return if negative then -(n : Int) else n

/-- A number with a fraction or an exponent. One too large is refused, one too small is not. -/
def float : Reader Unit := do
  let negative ← sign
  let whole ← decimal
  let fraction ← optional (do char '.'; digits Char.isDigit)
  let exponent ← if fraction.isSome then optional exponentPart else some <$> exponentPart
  let places := fraction.getD []
  if negative || isFinite (numberOf 10 (whole ++ places)) (exponent.getD 0 - places.length) then
    return ()
  else failure

def specialFloat : Reader Unit := do
  let _ ← sign
  exactly "inf" <|> exactly "nan"

/-- A number of so many digits between two bounds. -/
def field (width low high : Nat) : Reader Nat := do
  let found ← (List.replicate width ()).mapM fun _ => one Char.isDigit
  let n := numberOf 10 found
  if low ≤ n ∧ n ≤ high then return n else failure

def daysInMonth (year month : Nat) : Nat :=
  if month = 2 then
    if year % 4 = 0 ∧ (year % 100 ≠ 0 ∨ year % 400 = 0) then 29 else 28
  else if month ∈ [4, 6, 9, 11] then 30
  else 31

def day : Reader Unit := do
  let year ← field 4 0 9999
  char '-'
  let month ← field 2 1 12
  char '-'
  let _ ← field 2 1 (daysInMonth year month)

/-- A time of the day; a leap second is one more. -/
def time : Reader Unit := do
  let _ ← field 2 0 23
  char ':'
  let _ ← field 2 0 59
  char ':'
  let _ ← field 2 0 60
  let _ ← optional (do
    char '.'
    let _ ← one Char.isDigit
    takeWhile Char.isDigit)

def zone : Reader Unit :=
  (do let _ ← one fun c => c = 'Z' || c = 'z')
    <|> (do
      let _ ← one fun c => c = '+' || c = '-'
      let _ ← field 2 0 23
      char ':'
      let _ ← field 2 0 59)

/-- A day, a time, or both and perhaps a time zone. -/
def date : Reader Unit :=
  (do
    day
    let _ ← optional (do
      let _ ← one fun c => c = 'T' || c = 't' || c = ' '
      time
      optional zone))
    <|> time

def scalar : Reader Value :=
  (.text <$> anyString)
    <|> (do exactly "true"; return .boolean true)
    <|> (do exactly "false"; return .boolean false)
    <|> (do date; return .date)
    <|> (do float; return .float)
    <|> (do specialFloat; return .float)
    <|> (.integer <$> integer)

end ScriptSession.Toml
