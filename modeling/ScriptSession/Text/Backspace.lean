import ScriptSession.Text.Cluster
import ScriptSession.Total

/-! Lines that were typed with backspaces: each one takes back the cluster before it. -/
namespace ScriptSession.Text

/-- What was typed so far. -/
structure Typed where
  /-- The characters, the last one first. -/
  chars : List Char := []
  /-- The clusters' sizes in bytes, the last one first. A size is counted in one byte and starts
  over at 256. -/
  sizes : List UInt8 := []

namespace Typed

/-- Takes off characters until so many bytes are gone. -/
def dropBytes : List Char → Nat → List Char
  | [], _ => []
  | c :: cs, n => if n = 0 then c :: cs else dropBytes cs (n - c.utf8Size)

def add (t : Typed) (cluster : List Char) : Typed where
  chars := cluster.reverse ++ t.chars
  sizes := UInt8.ofNat (total Char.utf8Size cluster) :: t.sizes

/-- With nothing before it, a backspace does nothing. -/
def takeBack (t : Typed) : Typed :=
  match t.sizes with
  | [] => t
  | size :: sizes => { chars := dropBytes t.chars size.toNat, sizes := sizes }

def enter (t : Typed) (cluster : List Char) : Typed :=
  if cluster = ['\u0008'] then t.takeBack else t.add cluster

end Typed

/-- What is left of a line when its backspaces have taken effect. -/
def withoutBackspaces (line : String) : String :=
  String.ofList ((clusters line.toList).foldl Typed.enter {}).chars.reverse

end ScriptSession.Text
