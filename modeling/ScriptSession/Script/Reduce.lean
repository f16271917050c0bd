import ScriptSession.Script.Builtin
import ScriptSession.Script.Statement

/-! Reduction of statements. Expressions are evaluated inside each other only so deep, which is also
why evaluation ends: each level of nesting evaluates its parts one level further down. Cancellation
is looked for before every application. -/
namespace ScriptSession.Script

def maxCallDepth : Nat := 128

def maxEvalDepth : Nat := 256

/-- Words that are no names at the head of a list. -/
inductive SpecialForm where
  | set
  | procedure
  | conditional
  | sequence
  deriving DecidableEq, Repr

def SpecialForm.ofName? : String → Option SpecialForm
  | "set" => some .set
  | "fun" => some .procedure
  | "if" => some .conditional
  | "do" => some .sequence
  | _ => none

def isSpecialForm (name : String) : Bool := (SpecialForm.ofName? name).isSome

open Evaluates

/-- What a name stands for: a binding before the builtin of that name. -/
def resolve? (env : Environment) (name : String) : Except String Value :=
  match env.lookup? name with
  | some value => .ok value
  | none =>
    match Builtin.ofName? name with
    | some b => .ok (.builtin b)
    | none =>
      if isSpecialForm name then
        .error s!"'{name}' is a special form and cannot be used as a value"
      else .error s!"unbound name '{name}'"

def resolve (name : String) (span : Span) : Evaluates Value := do
  match resolve? (← get) name with
  | .ok value => pure value
  | .error message => failAt message span

/-- The names of the parameters, each of which occurs once; `seen` are those before. -/
def paramNames (seen : List String) : List Expr → Except (String × Span) (List String)
  | [] => .ok []
  | param :: rest =>
    match param.word? with
    | none => .error ("fun: parameters must be names", param.span)
    | some name =>
      if seen.contains name then .error (s!"fun: duplicate parameter '{name}'", param.span)
      else do
        let names ← paramNames (seen ++ [name]) rest
        .ok (name :: names)

/-- A new procedure from its parameters and, last, its body. -/
def makeProcedure (name : Option String) (args : List Expr) : Evaluates Value :=
  match args.getLast? with
  | none => fail "fun: expected parameters and a body"
  | some body =>
    match paramNames [] args.dropLast with
    | .error (message, span) => failAt message span
    | .ok params => do
      let id := (← get).nextClosure
      modify fun env => { env with nextClosure := id + 1 }
      pure (.procedure { id := id, name := name, params := params, body := body })

/-- Parameters and body of an expression that is written as a procedure. -/
def procedureLiteral? : Expr → Option (List Expr)
  | .list head rest _ => if head.word? = some "fun" then some rest else none
  | _ => none

def evalAll (eval : Expr → Evaluates Value) : List Expr → Evaluates (List Value)
  | [] => pure []
  | e :: rest => do
    let value ← eval e
    let values ← evalAll eval rest
    pure (value :: values)

/-- The value of the last expression. -/
def evalSequence (eval : Expr → Evaluates Value) (last : Value) : List Expr → Evaluates Value
  | [] => pure last
  | e :: rest => do evalSequence eval (← eval e) rest

def evalSet (eval : Expr → Evaluates Value) : List Expr → Evaluates Value
  | [target, valueExpr] =>
    match target.word? with
    | none => failAt "set: expected a name" target.span
    | some name =>
      if isSpecialForm name then failAt s!"set: '{name}' is a special form" target.span
      else do
        if (← get).depth = 0 && (Builtin.ofName? name).isSome then
          ask (.warn s!"shadowing builtin '{name}'" (some target.span))
        let value ← match procedureLiteral? valueExpr with
          | some args => makeProcedure (some name) args
          | none => eval valueExpr
        modify (·.define name value)
        pure .nil
  | _ => fail "set: expected a name and a value"

def evalConditional (eval : Expr → Evaluates Value) : List Expr → Evaluates Value
  | [condition, yes] => do
    if (← eval condition).isTrue then eval yes else pure .nil
  | [condition, yes, no] => do
    if (← eval condition).isTrue then eval yes else eval no
  | _ => fail "if: expected a condition, a branch and an optional else branch"

def evalSpecial (eval : Expr → Evaluates Value) (form : SpecialForm) (args : List Expr) :
    Evaluates Value :=
  match form with
  | .set => evalSet eval args
  | .procedure => makeProcedure none args
  | .conditional => evalConditional eval args
  | .sequence => evalSequence eval .nil args

def applyClosure (eval : Expr → Evaluates Value) (closure : Closure) (args : List Value)
    (span : Span) : Evaluates Value := do
  let name := closure.name.getD "function"
  if args.length ≠ closure.params.length then
    failAt s!"{name}: expected {closure.params.length} argument(s), got {args.length}" span
  else if (← get).depth ≥ maxCallDepth then
    failAt s!"maximum call depth ({maxCallDepth}) exceeded" span
  else inFrame (closure.params.zip args) (eval closure.body)

def apply (eval : Expr → Evaluates Value) (callee : Value) (args : List Value) (span : Span) :
    Evaluates Value := do
  checkAborted
  match callee with
  | .builtin b => (b.call args).located span
  | .procedure closure => applyClosure eval closure args span
  | other => failAt s!"cannot call a value of type {other.typeName}" span

/-- One level of evaluation; `eval` evaluates the parts. -/
def evalParts (eval : Expr → Evaluates Value) : Expr → Evaluates Value
  | .int n _ => pure (.int n)
  | .str s _ => pure (.str s)
  | .bool b _ => pure (.bool b)
  | .nil _ => pure .nil
  | .word name span => resolve name span
  | .list head rest span =>
    match head.word?.bind SpecialForm.ofName? with
    | some form => (evalSpecial eval form rest).located span
    | none => do
      checkAborted
      let callee ← eval head
      let args ← evalAll eval rest
      apply eval callee args span

/-- Evaluation with room for so many levels of nesting. -/
def evalWithin : Nat → Expr → Evaluates Value
  | 0, e => failAt s!"maximum evaluation depth ({maxEvalDepth}) exceeded" e.span
  | room + 1, e => nested (evalParts (evalWithin room) e)

/-- Evaluation from the nesting that the environment counts. -/
def eval (e : Expr) : Evaluates Value := fun env => evalWithin (maxEvalDepth - env.nesting) e env

/-- The procedure that a statement of one word calls. -/
def bareCallee? (env : Environment) (s : Statement) : Option Value := do
  let name ← s.bareWord?
  let value ← (resolve? env name).toOption
  if value.isCallable then some value else none

def Outcome.ofResult (span : Span) : Except Stop Value → Outcome
  | .ok .nil => .unit
  | .ok value => .value value.text
  | .error .exit => .exit
  | .error .cancelled => .cancelled
  | .error (.failure message range) => .failed message (some (range.getD span))

/-- A statement starts at the top level, whatever the one before it left behind. -/
def reduce (env : Environment) (s : Statement) : Process Environment Outcome :=
  let env := env.atTopLevel
  let result := match bareCallee? env s with
    | some callee => apply eval callee [] s.expr.span env
    | none => eval s.expr env
  result.bind fun env result => .done env (Outcome.ofResult s.expr.span result)

/-- The statements of a text, or what is wrong with it. -/
def statements (text : String) : Except (List Diagnostic) (List Statement) :=
  match tokenize text with
  | .error errors => .error (errors.map (·.diagnostic))
  | .ok tokens =>
    match parse tokens with
    | .error errors => .error (errors.map (·.diagnostic))
    | .ok statements => .ok statements

/-- The prompt that the name `prompt` is bound to, if that is a string. -/
def prompt (default : String) (env : Environment) : String :=
  match env.lookup? "prompt" with
  | some (.str text) => text
  | _ => default

def bindings (env : Environment) : List Binding :=
  env.globals.map fun (name, value) => ⟨name, value.summary⟩

/-- The command language. -/
def language (defaultPrompt : String) : Backend where
  Environment := Environment
  Statement := Statement
  initial := {}
  statements := statements
  reduce := reduce
  prompt := prompt defaultPrompt
  bindings := bindings

end ScriptSession.Script
