import ScriptSession.Files
import ScriptSession.Session.Batch

/-! Why the program gives up, with the causes, and how that is reported. -/
namespace ScriptSession.CommandLine

/-- Why a text cannot be read. -/
inductive ReadError where
  | file (error : FileError)
  | notText
  deriving DecidableEq, Repr

def ReadError.message : ReadError → String
  | file error => error.message
  | notText => "stream did not contain valid UTF-8"

/-- Why there are no settings. -/
inductive SettingsError where
  | unreadable (error : ReadError)
  | malformed
  deriving DecidableEq, Repr

def SettingsError.chain : SettingsError → List String
  | unreadable error => ["IO error: " ++ error.message, error.message]
  | malformed =>
    ["Config parse error: the settings are not well formed", "the settings are not well formed"]

inductive Failure where
  | inputScript (error : ReadError)
  | script (path : String) (error : ReadError)
  | settings (path : String) (error : SettingsError)
  | userSettings (error : SettingsError)
  | log (path : String) (error : FileError)
  | run (path : String) (error : BatchError)
  | eval (error : BatchError)
  | repl (message : String)
  | playground (chain : List String)
  deriving DecidableEq, Repr

namespace Failure

/-- What failed, and its causes. -/
def chain : Failure → String × List String
  | inputScript error => ("Failed to read script from stdin", [error.message])
  | script path error => ("Failed to read file: " ++ path, [error.message])
  | settings path error => ("Failed to load config: " ++ path, error.chain)
  | userSettings error => ("Failed to load user config", error.chain)
  | log path error => ("Failed to open log file: " ++ path, [error.message])
  | run path error => ("Failed to run: " ++ path, error.chain)
  | eval error => ("Failed to evaluate code", error.chain)
  | repl message => (message, [])
  | playground chain => ("Failed to start playground", chain)

/-- The causes stand below; several are numbered. -/
def report (f : Failure) : String :=
  let (what, causes) := f.chain
  let shown := match causes with
    | [] => []
    | [cause] => ["", "Caused by:", "    " ++ cause]
    | causes => ["", "Caused by:"] ++ causes.zipIdx.map fun (cause, i) => s!"    {i}: {cause}"
  writtenLines (("Error: " ++ what) :: shown)

end Failure

end ScriptSession.CommandLine
