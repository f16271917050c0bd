/-! Spans of time and their text in the largest unit that gives at least one. -/
namespace ScriptSession

structure Duration where
  nanos : Nat
  deriving DecidableEq, Repr

namespace Duration

def ofMillis (millis : Nat) : Duration := ⟨millis * 1000000⟩

def add (a b : Duration) : Duration := ⟨a.nanos + b.nanos⟩

/-- The part of one in `count`, rounded down; nothing where `count` is zero or no word of 32 bits.
-/
def share (total : Duration) (count : Nat) : Duration :=
  if count < UInt32.size then ⟨total.nanos / count⟩ else ⟨0⟩

/-- The nanoseconds in a unit and how many decimals a whole number of nanoseconds needs in it. -/
def unit (d : Duration) : String × Nat × Nat :=
  if 1000000000 ≤ d.nanos then ("s", 1000000000, 9)
  else if 1000000 ≤ d.nanos then ("ms", 1000000, 6)
  else if 1000 ≤ d.nanos then ("µs", 1000, 3)
  else ("ns", 1, 0)

/-- The digits of `n`, with zeros in front up to `width` digits. -/
def padded (width n : Nat) : List Char :=
  let digits := Nat.toDigits 10 n
  List.replicate (width - digits.length) '0' ++ digits

def withoutTrailingZeros (digits : List Char) : List Char :=
  (digits.reverse.dropWhile (· = '0')).reverse

/-- All decimals that count. -/
def text (d : Duration) : String :=
  let (name, size, places) := d.unit
  let fraction := withoutTrailingZeros (padded places (d.nanos % size))
  let whole := toString (d.nanos / size)
  if fraction.isEmpty || places = 0 then whole ++ name
  else whole ++ "." ++ String.ofList fraction ++ name

/-- `n / m` to the nearest whole number, a tie to the even one. -/
def roundDiv (n m : Nat) : Nat :=
  let floor := n / m
  let rest := 2 * (n % m)
  if rest < m || (rest = m && floor % 2 = 0) then floor else floor + 1

/-- One decimal, rounded; rounding up does not change the unit. -/
def shortText (d : Duration) : String :=
  let (name, size, _) := d.unit
  let tenths := roundDiv (10 * d.nanos) size
  s!"{tenths / 10}.{tenths % 10}{name}"

end Duration

end ScriptSession
