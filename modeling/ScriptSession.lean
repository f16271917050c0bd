import ScriptSession.Script.Lexeme
import ScriptSession.Text.Quoted
import ScriptSession.Text.Blank
import ScriptSession.Diagnostic
import ScriptSession.Script.Statement
import ScriptSession.Script.Reduce
import ScriptSession.Console
import ScriptSession.Desk.Task
import ScriptSession.Diagnostic.Text
import ScriptSession.Diagnostic.Json
import ScriptSession.Diagnostic.Journal
import ScriptSession.Session.Stats
import ScriptSession.Assembler
import ScriptSession.LogLevel
import ScriptSession.Session.Schedule
import ScriptSession.Words
import ScriptSession.Session.Batch
import ScriptSession.Session.Drive
import ScriptSession.Session.Command
import ScriptSession.Playground.View
import ScriptSession.CommandLine
import ScriptSession.Main
import ScriptSession.Proofs.Desk.Turns
import ScriptSession.Proofs.Desk.Sweeping
import ScriptSession.Proofs.Desk.Waking
import ScriptSession.Proofs.Playground.Actions
import ScriptSession.Proofs.Playground.CursorInView
import ScriptSession.Proofs.Playground.Scrolling
import ScriptSession.Proofs.Script.Arithmetic
import ScriptSession.Proofs.Script.Bounds
import ScriptSession.Proofs.Script.Calls
import ScriptSession.Proofs.Script.Grammar
import ScriptSession.Proofs.Script.Nodes
import ScriptSession.Proofs.Script.Parametric
import ScriptSession.Proofs.Script.SpecialForms
import ScriptSession.Proofs.Script.Written
import ScriptSession.Proofs.Session.Assembly
import ScriptSession.Proofs.Session.BatchOutput
import ScriptSession.Proofs.Session.Buffering
import ScriptSession.Proofs.Session.Cancellation
import ScriptSession.Proofs.Session.DiagnosticLines
import ScriptSession.Proofs.Session.Drivers
import ScriptSession.Proofs.Session.Forgetting
import ScriptSession.Proofs.Session.Kinds
import ScriptSession.Proofs.Session.Lines
import ScriptSession.Proofs.Session.Prompt
import ScriptSession.Proofs.Session.Ranges
import ScriptSession.Proofs.Session.Scopes
import ScriptSession.Proofs.Session.Statements
import ScriptSession.Proofs.Session.Streaming
import ScriptSession.Proofs.Desk.Listeners
