/-! Texts as bytes in UTF-8. Decoding says where and how a sequence of bytes goes wrong. -/
namespace ScriptSession.Text

/-- The first fault: how many bytes before it are right, and how many belong to the fault; none if
the bytes end in the middle of a character. -/
structure Utf8Fault where
  validUpTo : Nat
  length : Option Nat
  deriving DecidableEq, Repr

def Utf8Fault.message (f : Utf8Fault) : String :=
  match f.length with
  | some length => s!"invalid utf-8 sequence of {length} bytes from index {f.validUpTo}"
  | none => s!"incomplete utf-8 byte sequence from index {f.validUpTo}"

/-- How many bytes follow a first byte, which ones may come second, and the bits of the first byte.
-/
def leadByte? (b : Nat) : Option (Nat × Nat × Nat × Nat) :=
  if b < 0x80 then some (0, 0, 0, b)
  else if 0xC2 ≤ b ∧ b ≤ 0xDF then some (1, 0x80, 0xBF, b - 0xC0)
  else if b = 0xE0 then some (2, 0xA0, 0xBF, 0)
  else if b = 0xED then some (2, 0x80, 0x9F, 0xD)
  else if 0xE1 ≤ b ∧ b ≤ 0xEF then some (2, 0x80, 0xBF, b - 0xE0)
  else if b = 0xF0 then some (3, 0x90, 0xBF, 0)
  else if 0xF1 ≤ b ∧ b ≤ 0xF3 then some (3, 0x80, 0xBF, b - 0xF0)
  else if b = 0xF4 then some (3, 0x80, 0x8F, 4)
  else none

/-- The rest of a character: `read` of its bytes are read, `left` are still to come, the next one
between `low` and `high`. -/
def continueChar (read left low high value : Nat) (bytes : List UInt8) :
    Except (Option Nat) (Char × Nat × List UInt8) :=
  match left, bytes with
  | 0, bytes => .ok (Char.ofNat value, read, bytes)
  | _ + 1, [] => .error none
  | left + 1, b :: rest =>
    if low ≤ b.toNat ∧ b.toNat ≤ high then
      continueChar (read + 1) left 0x80 0xBF (value * 64 + (b.toNat - 0x80)) rest
    else .error (some read)

theorem length_continueChar {read left low high value : Nat} {bytes rest : List UInt8} {c : Char}
    {n : Nat} (h : continueChar read left low high value bytes = .ok (c, n, rest)) :
    rest.length ≤ bytes.length := by
  fun_induction continueChar read left low high value bytes with
  | case1 =>
    cases h
    exact Nat.le_refl _
  | case2 => cases h
  | case3 read low high value left b rest' inside ih => exact Nat.le_succ_of_le (ih h)
  | case4 => cases h

/-- The characters of the bytes; `index` bytes came before. -/
def decodeFrom (index : Nat) (bytes : List UInt8) : Except Utf8Fault (List Char) :=
  match bytes with
  | [] => .ok []
  | b :: rest =>
    match leadByte? b.toNat with
    | none => .error ⟨index, some 1⟩
    | some (left, low, high, value) =>
      match _h : continueChar 1 left low high value rest with
      | .error length => .error ⟨index, length⟩
      | .ok (c, read, rest') =>
        match decodeFrom (index + read) rest' with
        | .ok cs => .ok (c :: cs)
        | .error fault => .error fault
  termination_by bytes.length
  decreasing_by exact Nat.lt_succ_of_le (length_continueChar _h)

def decode (bytes : List UInt8) : Except Utf8Fault String :=
  (decodeFrom 0 bytes).map String.ofList

def encode (text : String) : List UInt8 := text.toUTF8.toList

/-- The bytes up to the first line feed, that included, and the bytes behind it. -/
def splitLine (bytes : List UInt8) : List UInt8 × List UInt8 :=
  match bytes with
  | [] => ([], [])
  | b :: rest =>
    if b = 10 then ([b], rest)
    else
      let (line, rest) := splitLine rest
      (b :: line, rest)

/-- The bytes without the line end that closes them: a line feed, perhaps behind a carriage
return. -/
def withoutLineEnd (line : List UInt8) : List UInt8 :=
  match line.reverse with
  | 10 :: 13 :: rest => rest.reverse
  | 10 :: rest => rest.reverse
  | _ => line

/-- The first line and the bytes behind it; no line at the end. The line end is taken off before the
rest is read as text, so a character that it cuts short is incomplete. -/
def nextLine (bytes : List UInt8) : Except Utf8Fault (Option (String × List UInt8)) :=
  if bytes.isEmpty then .ok none
  else
    let (line, rest) := splitLine bytes
    (decode (withoutLineEnd line)).map fun text => some (text, rest)

end ScriptSession.Text
