import ScriptSession.Files

/-! What the program needs of its surroundings, whatever they are: a snapshot of a file tree, or the
system that it runs on. -/
namespace ScriptSession.CommandLine

structure Host (m : Type → Type) where
  /-- A variable of the environment. -/
  environment : String → m (Option String)
  /-- Everything on the standard input. -/
  input : m (List UInt8)
  read : String → ExceptT FileError m (List UInt8)
  isThere : String → m Bool
  /-- Makes a file, or opens one to write behind its end. -/
  append : String → ExceptT FileError m Unit
  /-- Writes a whole file; the directory that it is in is made if need be. -/
  write : String → List UInt8 → ExceptT FileError m Unit
  /-- Whether diagnostics go to a terminal. -/
  onTerminal : m Bool

/-- What surrounds a program that runs on a snapshot; its files are the state. -/
structure Surroundings where
  environment : List (String × String) := []
  input : List UInt8 := []

/-- Replaces the files by changed ones, if the change can be made. -/
def commit (change : Files → Except FileError Files) : ExceptT FileError (StateM Files) Unit := do
  set (← ofExcept (change (← get)))

def Surroundings.host (s : Surroundings) : Host (StateM Files) where
  environment name := return List.lookup name s.environment
  input := return s.input
  read path := do ofExcept ((← get).read path)
  isThere path := return (← get).isThere path
  append path := commit (·.change path id)
  write path content := do
    modify (·.makeParent path)
    commit (·.change path fun _ => content)
  onTerminal := return false

end ScriptSession.CommandLine
