import ScriptSession.Diagnostic

/-! The diagnostics of the statement under way, in the order of their arrival. -/
namespace ScriptSession

structure Journal where
  entries : List Diagnostic := []
  deriving DecidableEq

namespace Journal

def add (j : Journal) (entry : Diagnostic) : Journal := ⟨j.entries ++ [entry]⟩

def addAll (j : Journal) (entries : List Diagnostic) : Journal := ⟨j.entries ++ entries⟩

def clear (_ : Journal) : Journal := {}

/-- Gives the entries away and keeps none. -/
def take (j : Journal) : List Diagnostic × Journal := (j.entries, {})

end Journal

end ScriptSession
