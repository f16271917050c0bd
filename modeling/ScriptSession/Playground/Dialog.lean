import ScriptSession.Desk
import ScriptSession.Playground.Editor

/-! The dialog in which the user answers a request of the script. -/
namespace ScriptSession.Playground

structure Dialog where
  request : Nat
  prompt : String
  input : String := ""
  deriving DecidableEq, Repr

inductive DialogResult where
  | editing (dialog : Dialog)
  | submitted (answer : String)
  | dismissed
  deriving DecidableEq, Repr

namespace Dialog

def ofRequest (r : ActiveRequest) : Dialog := { request := r.id, prompt := r.prompt }

def press (d : Dialog) (key : Key) (control : Bool) : DialogResult :=
  match key with
  | .enter => .submitted d.input
  | .escape => .dismissed
  | .char c =>
    if control then if c = 'c' then .dismissed else .editing d
    else .editing { d with input := d.input.push c }
  | .backspace => .editing { d with input := String.ofList d.input.toList.dropLast }
  | _ => .editing d

end Dialog

end ScriptSession.Playground
