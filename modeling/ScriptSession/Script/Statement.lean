import ScriptSession.Script.Expr
import ScriptSession.Script.Token

/-! Statements of a script. A statement is a run of expressions up to a separator; separators inside
parentheses do not count. Reading goes once over the tokens with the groups that are still open. -/
namespace ScriptSession.Script

structure Statement where
  expr : Expr
  deriving Repr

/-- A word that stands alone is called if it names a procedure. -/
def Statement.bareWord? (s : Statement) : Option String := s.expr.word?

/-- Groups may stand inside each other up to this depth. -/
def maxNesting : Nat := 128

inductive GroupingCause where
  | unclosedParen
  | unexpectedCloseParen
  | nestedTooDeep
  deriving DecidableEq, Repr

def GroupingCause.message : GroupingCause → String
  | .unclosedParen => "unclosed '('"
  | .unexpectedCloseParen => "unexpected ')'"
  | .nestedTooDeep => s!"parentheses nested deeper than {maxNesting}"

/-- An error is reported at the parenthesis that causes it. -/
structure GroupingError where
  cause : GroupingCause
  span : Span
  deriving DecidableEq, Repr

def GroupingError.diagnostic (e : GroupingError) : Diagnostic :=
  .error e.cause.message (some e.span)

/-- A group that waits for its `)`, with its items so far, the last one first. -/
structure OpenGroup where
  opening : Span
  items : List Expr

/-- What stands between the statement's start and the next token. -/
inductive Nesting where
  /-- Open groups, the innermost one first. -/
  | groups (inner : List OpenGroup)
  /-- Inside a group that is nested too deep, with this many parentheses left to close. -/
  | skipping (depth : Nat)

/-- How far reading has come. Every list has its last member first. -/
structure Reading where
  statements : List Statement := []
  items : List Expr := []
  nesting : Nesting := .groups []
  errors : List GroupingError := []

namespace Reading

def report (r : Reading) (cause : GroupingCause) (span : Span) : Reading :=
  { r with errors := ⟨cause, span⟩ :: r.errors }

/-- A new item of the innermost open group, or of the statement. -/
def addItem (r : Reading) (groups : List OpenGroup) (item : Expr) : Reading :=
  match groups with
  | [] => { r with items := item :: r.items, nesting := .groups [] }
  | group :: outer =>
    { r with nesting := .groups ({ group with items := item :: group.items } :: outer) }

/-- The statement made of the items so far, if there are any. -/
def statement? (items : List Expr) : Option Statement :=
  match items.reverse with
  | [] => none
  | [single] => some ⟨single⟩
  | head :: next :: rest =>
    let last := (next :: rest).getLastD head
    some ⟨.list head (next :: rest) (head.span.merge last.span)⟩

def endStatement (r : Reading) : Reading :=
  { r with statements := (statement? r.items).toList ++ r.statements, items := [] }

def wordExpr (name : String) (span : Span) : Expr :=
  if name = "true" then .bool true span
  else if name = "false" then .bool false span
  else if name = "nil" then .nil span
  else .word name span

def openGroup (r : Reading) (groups : List OpenGroup) (span : Span) : Reading :=
  if groups.length < maxNesting then { r with nesting := .groups (⟨span, []⟩ :: groups) }
  else { r.report .nestedTooDeep span with nesting := .skipping (groups.length + 1) }

def closeGroup (r : Reading) (groups : List OpenGroup) (span : Span) : Reading :=
  match groups with
  | [] => r.report .unexpectedCloseParen span
  | group :: outer =>
    r.addItem outer (.group (group.opening.merge span) group.items.reverse)

/-- After a group that is nested too deep, everything up to the end of the outermost open group is
skipped. -/
def skip (r : Reading) (depth : Nat) (kind : TokenKind) : Reading :=
  match kind with
  | .openParen => { r with nesting := .skipping (depth + 1) }
  | .closeParen => { r with nesting := if depth ≤ 1 then .groups [] else .skipping (depth - 1) }
  | _ => r

def read (r : Reading) (token : Token) : Reading :=
  match r.nesting with
  | .skipping depth => r.skip depth token.kind
  | .groups groups =>
    match token.kind with
    | .int value => r.addItem groups (.int value token.span)
    | .str text => r.addItem groups (.str text token.span)
    | .word name => r.addItem groups (wordExpr name token.span)
    | .openParen => r.openGroup groups token.span
    | .closeParen => r.closeGroup groups token.span
    | .separator => if groups.isEmpty then r.endStatement else r

/-- At the end of the tokens the innermost open group is reported. -/
def finish (r : Reading) : Except (List GroupingError) (List Statement) :=
  let r := match r.nesting with
    | .groups (group :: _) => r.report .unclosedParen group.opening
    | _ => r.endStatement
  if r.errors.isEmpty then .ok r.statements.reverse else .error r.errors.reverse

end Reading

/-- The statements of a list of tokens, or all of its errors. -/
def parse (tokens : List Token) : Except (List GroupingError) (List Statement) :=
  (tokens.foldl Reading.read {}).finish

end ScriptSession.Script
