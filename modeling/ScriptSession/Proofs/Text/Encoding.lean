import Mathlib.Data.List.Basic
import ScriptSession.Text.Utf8

/-!
# Lines as bytes

What is encoded is decoded again (`decode_encode`). A line with a line feed behind it is read back as
that line, unless a line feed is in it or a carriage return at its end (`nextLine_encode`).
-/
namespace ScriptSession.Text

/-! ## Texts -/

theorem toList_loop (bytes : ByteArray) (i : Nat) (sofar : List UInt8) :
    ByteArray.toList.loop bytes i sofar = sofar.reverse ++ bytes.data.toList.drop i := by
  fun_induction ByteArray.toList.loop bytes i sofar with
  | case1 i sofar inside ih =>
    have inside' : i < bytes.data.toList.length := by simpa using inside
    rw [ih, List.drop_eq_getElem_cons inside']
    simp [ByteArray.get!, inside]
  | case2 i sofar outside =>
    rw [List.drop_eq_nil_of_le (by simpa using Nat.le_of_not_lt outside)]
    simp

theorem encode_eq (text : String) : encode text = text.toList.flatMap String.utf8EncodeChar := by
  have bytes : text.toByteArray = (text.toList.flatMap String.utf8EncodeChar).toByteArray := by
    conv => lhs; rw [← String.ofList_toList (s := text)]
    exact String.toByteArray_ofList
  rw [encode, String.toUTF8, bytes, ByteArray.toList, toList_loop]
  simp

/-- One more byte of a character. -/
theorem continueChar_step {read left low high value : Nat} {b : UInt8} (rest : List UInt8)
    (inside : low ≤ b.toNat ∧ b.toNat ≤ high) :
    continueChar read (left + 1) low high value (b :: rest) =
      continueChar (read + 1) left 0x80 0xBF (value * 64 + (b.toNat - 0x80)) rest := if_pos inside

theorem continueChar_done {v value : Nat} {c : Char} (same : Char.ofNat v = c) (read low high : Nat)
    (rest : List UInt8) (bits : value = v) :
    continueChar read 0 low high value rest = .ok (c, read, rest) := by
  rw [continueChar, bits, same]

/-- A character is read from its first byte and those that follow. -/
theorem decodeFrom_of_char {index : Nat} {b : UInt8} {bytes rest : List UInt8} {c : Char}
    {left low high value read : Nat} (lead : leadByte? b.toNat = some (left, low, high, value))
    (char : continueChar 1 left low high value bytes = .ok (c, read, rest)) :
    decodeFrom index (b :: bytes) = (decodeFrom (index + read) rest).map (c :: ·) := by
  rw [decodeFrom]
  simp only [lead]
  split
  · rename_i failed
    rw [char] at failed
    cases failed
  · rename_i found
    rw [char] at found
    cases found
    cases decodeFrom (index + read) rest <;> rfl

theorem toNat_byte {n : Nat} (small : n < 256) : (UInt8.ofNat n).toNat = n := by
  rw [UInt8.toNat_ofNat']
  exact Nat.mod_eq_of_lt small

theorem leadByte_two {b : Nat} (inside : 0xC2 ≤ b ∧ b ≤ 0xDF) :
    leadByte? b = some (1, 0x80, 0xBF, b - 0xC0) := by
  rw [leadByte?, if_neg (by omega), if_pos inside]

theorem leadByte_three {b : Nat} (inside : 0xE0 ≤ b ∧ b ≤ 0xEF) :
    leadByte? b = some (2, if b = 0xE0 then 0xA0 else 0x80, if b = 0xED then 0x9F else 0xBF,
      b - 0xE0) := by
  rw [leadByte?, if_neg (by omega), if_neg (by omega)]
  by_cases first : b = 0xE0
  · subst first
    rfl
  · by_cases surrogates : b = 0xED
    · subst surrogates
      rfl
    · rw [if_neg first, if_neg surrogates, if_pos (by omega), if_neg first, if_neg surrogates]

theorem leadByte_four {b : Nat} (inside : 0xF0 ≤ b ∧ b ≤ 0xF4) :
    leadByte? b = some (3, if b = 0xF0 then 0x90 else 0x80, if b = 0xF4 then 0x8F else 0xBF,
      b - 0xF0) := by
  rw [leadByte?, if_neg (by omega), if_neg (by omega), if_neg (by omega), if_neg (by omega),
    if_neg (by omega)]
  by_cases first : b = 0xF0
  · subst first
    rfl
  · by_cases last : b = 0xF4
    · subst last
      rfl
    · rw [if_neg first, if_pos (by omega), if_neg first, if_neg last]

theorem decodeFrom_char (index : Nat) (c : Char) (rest : List UInt8) : ∃ read,
    decodeFrom index (String.utf8EncodeChar c ++ rest) =
      (decodeFrom (index + read) rest).map (c :: ·) := by
  have valid : c.toNat < 0xD800 ∨ 0xDFFF < c.toNat ∧ c.toNat < 0x110000 := c.valid
  have same : Char.ofNat c.toNat = c := Char.ofNat_toNat c
  have toNat : c.val.toNat = c.toNat := rfl
  simp only [String.utf8EncodeChar, toNat]
  generalize c.toNat = v at valid same
  split
  · refine ⟨1, decodeFrom_of_char ?_ (continueChar_done same 1 0 0 rest rfl)⟩
    rw [toNat_byte (by omega), leadByte?, if_pos (by omega)]
  · split
    · refine ⟨2, decodeFrom_of_char (leadByte_two ?_) ?_⟩
      · rw [toNat_byte (by omega)]
        omega
      · rw [toNat_byte (by omega)]
        refine (continueChar_step rest ?_).trans ?_
        · rw [toNat_byte (by omega)]
          omega
        · rw [toNat_byte (by omega)]
          exact continueChar_done same 2 _ _ rest (by omega)
    · split
      · refine ⟨3, decodeFrom_of_char (leadByte_three ?_) ?_⟩
        · rw [toNat_byte (by omega)]
          omega
        · rw [toNat_byte (by omega)]
          refine (continueChar_step _ ?_).trans ((continueChar_step rest ?_).trans ?_)
          · rw [toNat_byte (by omega)]
            split <;> split <;> omega
          · rw [toNat_byte (by omega)]
            omega
          · rw [toNat_byte (by omega), toNat_byte (by omega)]
            exact continueChar_done same 3 _ _ rest (by omega)
      · refine ⟨4, decodeFrom_of_char (leadByte_four ?_) ?_⟩
        · rw [toNat_byte (by omega)]
          omega
        · rw [toNat_byte (by omega)]
          refine (continueChar_step _ ?_).trans
            ((continueChar_step _ ?_).trans ((continueChar_step rest ?_).trans ?_))
          · rw [toNat_byte (by omega)]
            split <;> split <;> omega
          · rw [toNat_byte (by omega)]
            omega
          · rw [toNat_byte (by omega)]
            omega
          · rw [toNat_byte (by omega), toNat_byte (by omega), toNat_byte (by omega)]
            exact continueChar_done same 4 _ _ rest (by omega)

theorem decodeFrom_chars (index : Nat) (cs : List Char) :
    decodeFrom index (cs.flatMap String.utf8EncodeChar) = .ok cs := by
  induction cs generalizing index with
  | nil => rw [List.flatMap_nil, decodeFrom]
  | cons c cs ih =>
    obtain ⟨read, decoded⟩ := decodeFrom_char index c (cs.flatMap String.utf8EncodeChar)
    rw [List.flatMap_cons, decoded, ih]
    rfl

theorem decode_encode (text : String) : decode (encode text) = .ok text := by
  rw [decode, encode_eq, decodeFrom_chars]
  exact congrArg Except.ok String.ofList_toList

/-! ## Lines -/

/-- Only a character below 128 has a byte below 128, and that byte is all of it. -/
theorem char_of_small_byte {c : Char} {b : UInt8} (mem : b ∈ String.utf8EncodeChar c)
    (small : b.toNat < 128) : String.utf8EncodeChar c = [b] ∧ b.toNat = c.toNat := by
  have valid : c.toNat < 0xD800 ∨ 0xDFFF < c.toNat ∧ c.toNat < 0x110000 := c.valid
  have toNat : c.val.toNat = c.toNat := rfl
  have large {n : Nat} (bounds : 128 ≤ n ∧ n < 256) : b ≠ UInt8.ofNat n := by
    rintro rfl
    rw [toNat_byte bounds.2] at small
    omega
  simp only [String.utf8EncodeChar, toNat] at mem ⊢
  generalize c.toNat = v at valid mem ⊢
  split at mem
  · rename_i ascii
    rw [if_pos ascii]
    rw [List.mem_singleton] at mem
    subst mem
    exact ⟨rfl, toNat_byte (by omega)⟩
  · exfalso
    split at mem
    · simp only [List.mem_cons, List.not_mem_nil, or_false] at mem
      rcases mem with first | second
      · exact large (by omega) first
      · exact large (by omega) second
    · split at mem <;> simp only [List.mem_cons, List.not_mem_nil, or_false] at mem
      · rcases mem with first | second | third
        · exact large (by omega) first
        · exact large (by omega) second
        · exact large (by omega) third
      · rcases mem with first | second | third | fourth
        · exact large (by omega) first
        · exact large (by omega) second
        · exact large (by omega) third
        · exact large (by omega) fourth

theorem char_eq_of_byte {c d : Char} {b : UInt8} (mem : b ∈ String.utf8EncodeChar c)
    (code : b.toNat = d.toNat) (small : b.toNat < 128) : c = d :=
  Char.toNat_inj.mp ((char_of_small_byte mem small).2.symm.trans code)

theorem splitLine_append {line : List UInt8} (inside : 10 ∉ line) (rest : List UInt8) :
    splitLine (line ++ 10 :: rest) = (line ++ [10], rest) := by
  induction line with
  | nil => simp [splitLine]
  | cons b line ih =>
    rw [List.mem_cons, not_or] at inside
    simp [splitLine, Ne.symm inside.1, ih inside.2]

theorem withoutLineEnd_append {line : List UInt8} (ends : line.getLast? ≠ some 13) :
    withoutLineEnd (line ++ [10]) = line := by
  have reversed : (line ++ [10]).reverse = 10 :: line.reverse := by simp
  rw [withoutLineEnd, reversed]
  cases back : line.reverse with
  | nil => simp [List.reverse_eq_nil_iff.mp back]
  | cons b before =>
    have last : line.getLast? = some b := by rw [← List.head?_reverse, back]; rfl
    have other : b ≠ 13 := fun same => ends (same ▸ last)
    have line_eq : line = (b :: before).reverse := by rw [← back, List.reverse_reverse]
    split
    · rename_i same
      cases same
      exact absurd rfl other
    · rename_i same
      cases same
      exact line_eq.symm
    · rename_i _ no
      exact absurd rfl (no (b :: before))

/-- A text without a line feed in it or a carriage return at its end. -/
structure OneLine (text : String) : Prop where
  noFeed : '\n' ∉ text.toList
  noReturn : text.toList.getLast? ≠ some '\r'

theorem OneLine.noReturn_encode {line : String} (h : OneLine line) :
    (encode line).getLast? ≠ some 13 := by
  intro last
  rw [encode_eq] at last
  obtain none | ⟨before, c, chars⟩ := List.eq_nil_or_concat line.toList
  · rw [none] at last
    cases last
  · rw [chars, List.concat_eq_append, List.flatMap_append, List.flatMap_singleton] at last
    have some' : String.utf8EncodeChar c ≠ [] := String.utf8EncodeChar_ne_nil
    rw [List.getLast?_append_of_ne_nil _ some'] at last
    obtain rfl : c = '\r' := char_eq_of_byte (List.mem_of_getLast? last) rfl (by decide)
    exact h.noReturn (by rw [chars]; simp)

theorem nextLine_encode {line : String} (h : OneLine line) (rest : List UInt8) :
    nextLine (encode line ++ 10 :: rest) = .ok (some (line, rest)) := by
  have noFeed : 10 ∉ encode line := by
    rw [encode_eq, List.mem_flatMap]
    rintro ⟨c, there, mem⟩
    obtain rfl : c = '\n' := char_eq_of_byte mem rfl (by decide)
    exact h.noFeed there
  have more : (encode line ++ 10 :: rest).isEmpty = false := by simp
  simp only [nextLine, more, splitLine_append noFeed, withoutLineEnd_append h.noReturn_encode,
    decode_encode]
  rfl

/-- Each line with a line feed behind it. -/
def lineBytes (lines : List String) : List UInt8 := lines.flatMap fun line => encode line ++ [10]

end ScriptSession.Text
