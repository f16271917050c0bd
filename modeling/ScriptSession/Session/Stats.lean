import ScriptSession.Duration

/-! How many statements a session has evaluated and how long that took. -/
namespace ScriptSession

structure Stats where
  count : Nat := 0
  total : Duration := ⟨0⟩
  deriving DecidableEq, Repr

namespace Stats

def record (s : Stats) (elapsed : Duration) : Stats := ⟨s.count + 1, s.total.add elapsed⟩

def average (s : Stats) : Duration := s.total.share s.count

end Stats

end ScriptSession
