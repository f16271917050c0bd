import ScriptSession.CommandLine

/-! The program on the system that it runs on. -/
namespace ScriptSession.Main

open CommandLine

def fileError : IO.Error → FileError
  | .noFileOrDirectory .. => .notFound
  | e => .other (toString e)

/-- A file operation of the system. -/
def attempt {α : Type} (action : IO α) : ExceptT FileError IO α := do
  match ← action.toBaseIO with
  | .ok a => return a
  | .error e => throw (fileError e)

def host : Host IO where
  environment name := IO.getEnv name
  input := do return (← (← IO.getStdin).readBinToEnd).toList
  read path := do return (← attempt (IO.FS.readBinFile path)).toList
  isThere path := do return (← (IO.FS.Handle.mk path .read).toBaseIO).toOption.isSome
  append path := attempt do
    let _ ← IO.FS.Handle.mk path .append
  write path content := attempt do
    let parent := "/".intercalate (path.splitOn "/").dropLast
    if parent ≠ "" then IO.FS.createDirAll parent
    IO.FS.writeBinFile path ⟨content.toArray⟩
  onTerminal := do (← IO.getStderr).isTty

end ScriptSession.Main

def main (arguments : List String) : IO UInt32 := do
  let ended ← ScriptSession.CommandLine.run ScriptSession.Main.host arguments
  (← IO.getStdout).putStr ended.stdout
  (← IO.getStderr).putStr ended.stderr
  return UInt32.ofNat ended.code
