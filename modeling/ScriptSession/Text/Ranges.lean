/-! Sets of characters, written down as ranges of code points. -/
namespace ScriptSession.Text

/-- Ranges with both ends included, disjoint and in ascending order. -/
abbrev Ranges := List (Nat × Nat)

/-- The ranges ascend, so the search ends at the first one that starts after the code point. -/
def Ranges.has : Ranges → Nat → Bool
  | [], _ => false
  | (low, high) :: rest, n => if n < low then false else if n ≤ high then true else has rest n

end ScriptSession.Text
