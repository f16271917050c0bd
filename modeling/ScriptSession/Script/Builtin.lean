import ScriptSession.Script.Environment
import ScriptSession.Script.Token

/-! What the builtin procedures do with their arguments. Arithmetic is exact or fails; it never
leaves the words of 64 bits. -/
namespace ScriptSession.Script.Builtin

/-- The number of arguments is at least `least` and, if there is a limit, at most `most`. -/
def arity (b : Builtin) (least : Nat) (most : Option Nat) (count : Nat) : Except String Unit :=
  let expected := match most with
    | some most => if least = most then s!"{least}" else s!"{least} to {most}"
    | none => s!"at least {least}"
  if count < least || most.any (· < count) then
    .error s!"{b.name}: expected {expected} argument(s), got {count}"
  else .ok ()

def typeError (b : Builtin) (expected : String) (got : Value) : String :=
  s!"{b.name}: expected {expected}, got {got.typeName}"

def overflow (b : Builtin) : String := s!"{b.name}: integer overflow"

def int (b : Builtin) : Value → Except String Int64
  | .int n => .ok n
  | other => .error (b.typeError "int" other)

/-- The integer as a word, unless it is too large. -/
def word (b : Builtin) (n : Int) : Except String Int64 :=
  match int64? n with
  | some n => .ok n
  | none => .error b.overflow

/-- Combines the arguments from left to right; every step must stay in range. -/
def foldInts (b : Builtin) (op : Int → Int → Int) : Int64 → List Value → Except String Int64
  | acc, [] => .ok acc
  | acc, value :: rest => do
    let n ← b.int value
    let acc ← b.word (op acc.toInt n.toInt)
    foldInts b op acc rest

def subtract (b : Builtin) (args : List Value) : Except String Int64 := do
  b.arity 1 none args.length
  match args with
  | [] => .ok 0
  | first :: rest =>
    let first ← b.int first
    if rest.isEmpty then b.word (-first.toInt) else b.foldInts (· - ·) first rest

/-- Quotient and remainder go toward zero. -/
def divide (b : Builtin) (op : Int → Int → Int) (args : List Value) : Except String Int64 := do
  b.arity 2 (some 2) args.length
  match args with
  | [x, y] =>
    let x ← b.int x
    let y ← b.int y
    if y = 0 then .error "division by zero"
    else do
      let _ ← b.word (x.toInt.tdiv y.toInt)
      b.word (op x.toInt y.toInt)
  | _ => .ok 0

def compare (b : Builtin) (ints : Int → Int → Bool) (texts : String → String → Bool)
    (args : List Value) : Except String Bool := do
  b.arity 2 (some 2) args.length
  match args with
  | [.int x, .int y] => .ok (ints x.toInt y.toInt)
  | [.str x, .str y] => .ok (texts x y)
  | [x, y] => .error s!"{b.name}: cannot compare {x.typeName} with {y.typeName}"
  | _ => .ok false

/-- The text of the first argument. -/
def firstText (args : List Value) (default : String) : String :=
  (args.head?.map Value.text).getD default

/-- What the procedures without effects give. -/
def value (b : Builtin) (args : List Value) : Except String Value :=
  match b with
  | add => Value.int <$> b.foldInts (· + ·) 0 args
  | mul => Value.int <$> b.foldInts (· * ·) 1 args
  | sub => Value.int <$> b.subtract args
  | div => Value.int <$> b.divide Int.tdiv args
  | mod => Value.int <$> b.divide Int.tmod args
  | eq => do
    b.arity 2 (some 2) args.length
    match args with
    | [x, y] => .ok (.bool (x.same y))
    | _ => .ok .nil
  | lt => Value.bool <$> b.compare (fun x y => decide (x < y)) (fun x y => decide (x < y)) args
  | gt => Value.bool <$> b.compare (fun x y => decide (y < x)) (fun x y => decide (y < x)) args
  | not => do
    b.arity 1 (some 1) args.length
    .ok (.bool (!(args.headD .nil).isTrue))
  | concat => .ok (.str (String.join (args.map Value.text)))
  | str => do
    b.arity 1 (some 1) args.length
    .ok (.str (firstText args ""))
  | len => do
    b.arity 1 (some 1) args.length
    match args with
    | [.str s] => .ok (.int (Int64.ofNat s.length))
    | [other] => .error (b.typeError "string" other)
    | _ => .ok .nil
  | _ => .ok .nil

/-- The duration of a pause in milliseconds. -/
def pause (b : Builtin) (args : List Value) : Except String Nat := do
  b.arity 1 (some 1) args.length
  let n ← b.int (args.headD .nil)
  if n < 0 then .error "sleep: duration must not be negative" else .ok n.toInt.toNat

open Evaluates in
def emit (level : Level) (args : List Value) : Evaluates Value := do
  ask (.emit (.console level (" ".intercalate (args.map Value.text))))
  pure .nil

open Evaluates in
def call (b : Builtin) (args : List Value) : Evaluates Value :=
  match b with
  | print | log => emit .log args
  | info => emit .info args
  | warn => emit .warn args
  | error => emit .error args
  | readline => do
    ofExcept (b.arity 0 (some 1) args.length)
    match ← ask (.readLine (firstText args "")) with
    | some line => pure (.str line)
    | none => stop .cancelled
  | sleep => do
    let millis ← ofExcept (b.pause args)
    if ← ask (.sleep millis) then pure .nil else stop .cancelled
  | fail => do
    ofExcept (b.arity 0 (some 1) args.length)
    Evaluates.fail (firstText args "failed")
  | exit => do
    ofExcept (b.arity 0 (some 0) args.length)
    stop .exit
  | _ => ofExcept (b.value args)

end ScriptSession.Script.Builtin
