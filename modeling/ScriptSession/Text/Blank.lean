import ScriptSession.Text.Ranges

/-! Blank characters: the Unicode class White_Space, which holds more than the ASCII blanks. -/
namespace ScriptSession.Text

def blankRanges : Ranges := [
  (0x9, 0xD), (0x20, 0x20), (0x85, 0x85), (0xA0, 0xA0), (0x1680, 0x1680), (0x2000, 0x200A),
  (0x2028, 0x2029), (0x202F, 0x202F), (0x205F, 0x205F), (0x3000, 0x3000)]

def isBlank (c : Char) : Bool := blankRanges.has c.toNat

/-- The text without the blanks at its start. -/
def trimStart (cs : List Char) : List Char := cs.dropWhile isBlank

/-- The text without the blanks at both ends. -/
def trim (cs : List Char) : List Char := (trimStart (trimStart cs).reverse).reverse

/-- Runs of characters that are not blank, in order. -/
def blankSeparated (cs : List Char) : List (List Char) :=
  let step (c : Char) (st : List Char × List (List Char)) :=
    if isBlank c then ([], if st.1.isEmpty then st.2 else st.1 :: st.2) else (c :: st.1, st.2)
  let (first, rest) := cs.foldr step ([], [])
  if first.isEmpty then rest else first :: rest

end ScriptSession.Text
