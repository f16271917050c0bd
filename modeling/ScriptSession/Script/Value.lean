import ScriptSession.Script.Expr

/-! Values of a script, the builtin procedures by name and the bindings of names to values. -/
namespace ScriptSession.Script

inductive Builtin where
  | add
  | sub
  | mul
  | div
  | mod
  | eq
  | lt
  | gt
  | not
  | concat
  | str
  | len
  | print
  | log
  | info
  | warn
  | error
  | readline
  | sleep
  | fail
  | exit
  deriving DecidableEq, Repr

namespace Builtin

def name : Builtin → String
  | add => "add"
  | sub => "sub"
  | mul => "mul"
  | div => "div"
  | mod => "mod"
  | eq => "eq"
  | lt => "lt"
  | gt => "gt"
  | not => "not"
  | concat => "concat"
  | str => "str"
  | len => "len"
  | print => "print"
  | log => "log"
  | info => "info"
  | warn => "warn"
  | error => "error"
  | readline => "readline"
  | sleep => "sleep"
  | fail => "fail"
  | exit => "exit"

def all : List Builtin :=
  [add, sub, mul, div, mod, eq, lt, gt, not, concat, str, len, print, log, info, warn, error,
    readline, sleep, fail, exit]

def ofName? (name : String) : Option Builtin := all.find? (·.name == name)

end Builtin

/-- A procedure of the script. Its number tells it apart from every other procedure alive, also from
one with the same text. -/
structure Closure where
  id : Nat
  /-- The name it was first bound to. -/
  name : Option String
  params : List String
  body : Expr
  deriving Repr

inductive Value where
  | int (value : Int64)
  | str (text : String)
  | bool (value : Bool)
  | nil
  | procedure (closure : Closure)
  | builtin (builtin : Builtin)
  deriving Repr

namespace Value

def typeName : Value → String
  | int _ => "int"
  | str _ => "string"
  | bool _ => "bool"
  | nil => "nil"
  | procedure _ => "function"
  | builtin _ => "builtin"

/-- Only `false` and `nil` are false. -/
def isTrue : Value → Bool
  | bool false | nil => false
  | _ => true

def isCallable : Value → Bool
  | procedure _ | builtin _ => true
  | _ => false

/-- Procedures are equal if they are the same procedure. -/
def same : Value → Value → Bool
  | int a, int b => a == b
  | str a, str b => a == b
  | bool a, bool b => a == b
  | nil, nil => true
  | procedure a, procedure b => a.id == b.id
  | builtin a, builtin b => a == b
  | _, _ => false

def text : Value → String
  | int n => toString n.toInt
  | str s => s
  | bool b => if b then "true" else "false"
  | nil => "nil"
  | procedure closure =>
    match closure.name with
    | some name => s!"<fun {name}/{closure.params.length}>"
    | none => s!"<fun/{closure.params.length}>"
  | builtin b => s!"<builtin {b.name}>"

/-- A string is shown in quotes. -/
def summary : Value → String
  | str s => Text.quoted s
  | v => v.text

end Value

/-- Names with their values in the order of their first binding. -/
abbrev Bindings := List (String × Value)

namespace Bindings

def get? (bindings : Bindings) (name : String) : Option Value :=
  (bindings.find? (·.1 == name)).map (·.2)

/-- A name that is bound already keeps its place. -/
def set (bindings : Bindings) (name : String) (value : Value) : Bindings :=
  match bindings with
  | [] => [(name, value)]
  | (other, old) :: rest =>
    if other == name then (name, value) :: rest else (other, old) :: set rest name value

/-- A number that no procedure among the values has. -/
def freshId (bindings : Bindings) : Nat :=
  bindings.foldl (fun n entry => match entry.2 with
    | .procedure closure => max n (closure.id + 1)
    | _ => n) 0

end Bindings

end ScriptSession.Script
