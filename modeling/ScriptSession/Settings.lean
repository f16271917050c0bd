import ScriptSession.Diagnostic.Format
import ScriptSession.LogLevel
import ScriptSession.Toml.Document

/-! The user's settings, in sections. What a file does not say keeps its default, and keys that are
not known are passed over. -/
namespace ScriptSession

structure PromptSettings where
  prompt : String := "> "
  continuationPrompt : String := ".. "
  historyFile : Option String := none
  historySize : Nat := 1000
  viMode : Bool := false
  colors : Bool := true
  deriving DecidableEq, Repr

structure BatchSettings where
  diagnostics : DiagnosticFormat := .text
  deriving DecidableEq, Repr

structure LogSettings where
  level : LogLevel := .warn
  file : Option String := none
  deriving DecidableEq, Repr

structure Settings where
  repl : PromptSettings := {}
  run : BatchSettings := {}
  log : LogSettings := {}
  deriving DecidableEq, Repr

namespace Toml.Value

def text? : Value → Option String
  | .text content => some content
  | _ => none

def boolean? : Value → Option Bool
  | .boolean b => some b
  | _ => none

def count? : Value → Option Nat
  | .integer n => if 0 ≤ n then some n.toNat else none
  | _ => none

def isEmpty : Value → Bool
  | .table _ [] | .array _ [] => true
  | _ => false

/-- One of several names, written as a string or as the only key of a table, with nothing behind. -/
def choice? : Value → Option String
  | .text name => some name
  | .table _ [(name, value)] => if value.isEmpty then some name else none
  | _ => none

/-- A section is a table, or an array of its settings in their order. A date is a table of a key
that is not known. -/
def isSection : Value → Bool
  | .table .. | .array .. | .date => true
  | _ => false

/-- A setting of a section, by name or by position; the default if it is not there. -/
def setting? {α : Type} (v : Value) (index : Nat) (name : String) (read? : Value → Option α)
    (default : α) : Option α :=
  let found := match v with
    | .table _ entries => Entries.find? entries name
    | .array _ items => items[index]?
    | _ => none
  match found with
  | some value => read? value
  | none => some default

end Toml.Value

namespace Settings

open Toml (Value)

def readPrompt? (v : Value) : Option PromptSettings := do
  guard v.isSection
  return {
    prompt := ← v.setting? 0 "prompt" Value.text? "> "
    continuationPrompt := ← v.setting? 1 "continuation_prompt" Value.text? ".. "
    historyFile := ← v.setting? 2 "history_file" (fun v => some <$> v.text?) none
    historySize := ← v.setting? 3 "history_size" Value.count? 1000
    viMode := ← v.setting? 4 "vi_mode" Value.boolean? false
    colors := ← v.setting? 5 "colors" Value.boolean? true }

def readBatch? (v : Value) : Option BatchSettings := do
  guard v.isSection
  return {
    diagnostics := ← v.setting? 0 "diagnostics" (fun v => v.choice?.bind DiagnosticFormat.ofName?)
      .text }

def readLog? (v : Value) : Option LogSettings := do
  guard v.isSection
  return {
    level := ← v.setting? 0 "level" (fun v => v.choice?.bind LogLevel.ofName?) .warn
    file := ← v.setting? 1 "file" (fun v => some <$> v.text?) none }

/-- The settings in a text, if it is well formed and everything known in it has the right kind. -/
def parse? (text : String) : Option Settings := do
  let root : Value := .table .headed (← Toml.parse? text)
  return {
    repl := ← root.setting? 0 "repl" readPrompt? {}
    run := ← root.setting? 1 "run" readBatch? {}
    log := ← root.setting? 2 "log" readLog? {} }

end Settings

end ScriptSession
