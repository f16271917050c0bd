/-! Assembly of statements from lines. A line that ends in a backslash keeps the statement open. -/
namespace ScriptSession

def continuationMark : Char := '\\'

structure LogicalStatement where
  text : String
  lines : Nat
  deriving DecidableEq, Repr

/-- The lines of the statement that is still open. -/
structure Assembler where
  pending : List String := []
  deriving DecidableEq

namespace Assembler

def joinLines (lines : List String) : String := "\n".intercalate lines

def isContinued (line : String) : Bool := line.toList.getLast? = some continuationMark

/-- Adds a line. The statement is complete once a line is not continued. -/
def submit (a : Assembler) (line : String) : Option LogicalStatement × Assembler :=
  let lines := a.pending ++ [line]
  if isContinued line then (none, ⟨lines⟩) else (some ⟨joinLines lines, lines.length⟩, {})

def reset (_ : Assembler) : Assembler := {}

def isBuffering (a : Assembler) : Bool := !a.pending.isEmpty

def pendingText (a : Assembler) : String := joinLines a.pending

end Assembler

end ScriptSession
