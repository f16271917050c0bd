import ScriptSession.Span
import ScriptSession.Text.Quoted

/-! Expressions of a script and their text. -/
namespace ScriptSession.Script

/-- A list has a head: an empty group is `nil`. -/
inductive Expr where
  | int (value : Int64) (span : Span)
  | str (text : String) (span : Span)
  | bool (value : Bool) (span : Span)
  | nil (span : Span)
  | word (name : String) (span : Span)
  | list (head : Expr) (rest : List Expr) (span : Span)
  deriving Repr

namespace Expr

def span : Expr → Span
  | int _ span | str _ span | bool _ span | nil span | word _ span | list _ _ span => span

def word? : Expr → Option String
  | word name _ => some name
  | _ => none

mutual

def text : Expr → String
  | int value _ => toString value.toInt
  | str text _ => Text.quoted text
  | bool value _ => if value then "true" else "false"
  | nil _ => "nil"
  | word name _ => name
  | list head rest _ => "(" ++ text head ++ textOfRest rest ++ ")"

/-- Each further item stands behind a blank. -/
def textOfRest : List Expr → String
  | [] => ""
  | item :: rest => " " ++ text item ++ textOfRest rest

end

end Expr

/-- Items between separators or parentheses: a single one stands for itself at the top level, and
none make `nil` inside parentheses. -/
def Expr.group (span : Span) : List Expr → Expr
  | [] => .nil span
  | head :: rest => .list head rest span

end ScriptSession.Script
