import Mathlib.Data.List.DropRight
import ScriptSession.Playground.View

/-!
# Lines and bytes of a text

A text that is cut at some place has a line there: from behind the last line feed in front of the place
up to the next one (`Borders`). How many lines stand above and below it, and how many bytes, are counted
from the line feeds (`Borders.textLines_eq`).
-/
namespace ScriptSession.Playground

/-! ## Bytes -/

theorem byteLength_cons (c : Char) (cs : List Char) :
    byteLength (c :: cs) = c.utf8Size + byteLength cs := rfl

theorem byteLength_append (a b : List Char) : byteLength (a ++ b) = byteLength a + byteLength b :=
  total_append ..

theorem byteLength_concat (a : List Char) (c : Char) :
    byteLength (a ++ [c]) = byteLength a + c.utf8Size :=
  byteLength_append ..

theorem byteLength_eq (cs : List Char) : byteLength cs = (String.ofList cs).utf8ByteSize := by
  induction cs with
  | nil => rfl
  | cons c cs ih =>
    have whole : String.ofList (c :: cs) = String.singleton c ++ String.ofList cs := by
      rw [String.singleton_eq_ofList, ← String.ofList_append]
      rfl
    rw [byteLength_cons, ih, whole, String.utf8ByteSize_append, String.utf8ByteSize_singleton]

/-- Every character takes a byte, so the cut is found again. -/
theorem splitBytes_append (front back : List Char) :
    splitBytes (byteLength front) (front ++ back) = (front, back) := by
  induction front with
  | nil =>
    cases back with
    | nil => rfl
    | cons c back =>
      have positive := c.utf8Size_pos
      have none : byteLength [] = 0 := rfl
      rw [List.nil_append, splitBytes, if_neg (by omega)]
  | cons c front ih =>
    have rest : byteLength (c :: front) - c.utf8Size = byteLength front := by
      rw [byteLength_cons]
      omega
    rw [List.cons_append, splitBytes, if_pos (by rw [byteLength_cons]; omega), rest, ih]

/-! ## Lines -/

/-- Whether a character is part of a line. -/
def inLine (c : Char) : Bool := c ≠ '\n'

theorem inLine_iff {c : Char} : inLine c = true ↔ c ≠ '\n' := decide_eq_true_iff

theorem textLines_ne_nil (cs : List Char) : textLines cs ≠ [] := by
  cases cs with
  | nil => exact List.cons_ne_nil _ _
  | cons c cs =>
    unfold textLines
    split
    · exact List.cons_ne_nil _ _
    · split <;> exact List.cons_ne_nil _ _

theorem textLines_cons {c : Char} (part : inLine c = true) {cs line : List Char}
    {lines : List (List Char)} (rest : textLines cs = line :: lines) :
    textLines (c :: cs) = (c :: line) :: lines := by
  rw [textLines, if_neg (inLine_iff.mp part), rest]

theorem textLines_line {line : List Char} (plain : ∀ c ∈ line, inLine c = true) :
    textLines line = [line] := by
  induction line with
  | nil => rfl
  | cons c line ih =>
    obtain ⟨part, plain⟩ := List.forall_mem_cons.mp plain
    exact textLines_cons part (ih plain)

theorem textLines_break (a b : List Char) :
    textLines (a ++ '\n' :: b) = textLines a ++ textLines b := by
  induction a with
  | nil => rfl
  | cons c a ih =>
    by_cases feed : c = '\n'
    · subst feed
      exact congrArg ([] :: ·) ih
    · have part : inLine c = true := inLine_iff.mpr feed
      obtain ⟨line, lines, first⟩ := List.exists_cons_of_ne_nil (textLines_ne_nil a)
      rw [first, List.cons_append] at ih
      rw [List.cons_append, textLines_cons part ih, textLines_cons part first, List.cons_append]

theorem length_textLines (cs : List Char) : (textLines cs).length = cs.count '\n' + 1 := by
  induction cs with
  | nil => rfl
  | cons c cs ih =>
    by_cases feed : c = '\n'
    · subst feed
      rw [List.count_cons_self, ← ih]
      rfl
    · have part : inLine c = true := inLine_iff.mpr feed
      obtain ⟨line, lines, first⟩ := List.exists_cons_of_ne_nil (textLines_ne_nil cs)
      rw [textLines_cons part first, List.count_cons_of_ne feed, ← ih, first]
      rfl

/-- The bytes of the lines, each with its line feed; the last one has none. -/
theorem total_textLines (cs : List Char) :
    total (byteLength · + 1) (textLines cs) = byteLength cs + 1 := by
  induction cs with
  | nil => rfl
  | cons c cs ih =>
    by_cases feed : c = '\n'
    · subst feed
      have one : '\n'.utf8Size = 1 := rfl
      have lines : textLines ('\n' :: cs) = [] :: textLines cs := rfl
      rw [lines, total_cons, ih, byteLength_cons, one]
      have none : byteLength [] = 0 := rfl
      omega
    · have part : inLine c = true := inLine_iff.mpr feed
      obtain ⟨line, lines, first⟩ := List.exists_cons_of_ne_nil (textLines_ne_nil cs)
      rw [first, total_cons] at ih
      rw [textLines_cons part first, total_cons, byteLength_cons, byteLength_cons]
      omega

/-! ## A line among the others -/

/-- Between the two a line stands alone: there is a line feed at the end of what is above it, if there
is anything, and at the start of what is below. -/
structure Borders (above below : List Char) : Prop where
  above : above = [] ∨ ∃ text, above = text ++ ['\n']
  below : below = [] ∨ ∃ text, below = '\n' :: text

namespace Borders

variable {above line below : List Char}

theorem textLines_eq (h : Borders above below) (plain : ∀ c ∈ line, inLine c = true) :
    ∃ before behind, textLines (above ++ (line ++ below)) = before ++ line :: behind ∧
      before.length = above.count '\n' ∧ total (byteLength · + 1) before = byteLength above ∧
      behind.length = below.count '\n' := by
  have last : ∃ behind, textLines (line ++ below) = line :: behind ∧
      behind.length = below.count '\n' := by
    rcases h.below with rfl | ⟨text, rfl⟩
    · rw [List.append_nil, textLines_line plain]
      exact ⟨[], rfl, rfl⟩
    · rw [textLines_break, textLines_line plain, List.count_cons_self, ← length_textLines]
      exact ⟨textLines text, rfl, rfl⟩
  obtain ⟨behind, lines, count⟩ := last
  rcases h.above with rfl | ⟨text, rfl⟩
  · exact ⟨[], behind, lines, rfl, rfl, count⟩
  · refine ⟨textLines text, behind, ?_, ?_, ?_, count⟩
    · rw [List.append_assoc, List.singleton_append, textLines_break, lines]
    · rw [length_textLines, List.count_append]
      rfl
    · rw [total_textLines, byteLength_concat]
      rfl

/-- The bytes in front of a column of the line. -/
theorem offsetOf_eq (h : Borders above below) (plain : ∀ c ∈ line, inLine c = true) {e : Editor}
    (buffer : e.buffer = above ++ (line ++ below)) (column : Nat) :
    e.offsetOf (above.count '\n') column = byteLength (above ++ line.take column) := by
  obtain ⟨before, behind, lines, row, bytes, -⟩ := h.textLines_eq plain
  have found : (before ++ line :: behind)[above.count '\n']? = some line := by
    rw [← row, List.getElem?_append_right (Nat.le_refl _), Nat.sub_self]
    rfl
  have taken : (before ++ line :: behind).take (above.count '\n') = before := by
    rw [← row, List.take_left]
  unfold Editor.offsetOf
  rw [buffer, lines]
  dsimp only
  rw [found]
  dsimp only
  rw [taken, bytes, byteLength_append]

/-- Line and column behind a part of the line. -/
theorem place_eq (h : Borders above below) (plain : ∀ c ∈ line, inLine c = true) {e : Editor}
    (front : e.split.1 = above ++ line) : e.place = (above.count '\n', line.length) := by
  have alone : Borders above [] := ⟨h.above, .inl rfl⟩
  obtain ⟨before, behind, lines, row, -, none⟩ := alone.textLines_eq plain
  obtain rfl : behind = [] := List.length_eq_zero_iff.mp none
  rw [List.append_nil] at lines
  unfold Editor.place
  rw [front, lines]
  simp [row]

end Borders

/-! ## Lines on a screen -/

/-- Lines are drawn each on a row of its own, from the top of the area on. -/
theorem Screen.drawLines_map {α : Type} (runs : α → List Run) (lines : List α) (s : Screen) {area : Rect}
    (room : area.isEmpty = false) (top : Nat) : s.drawLines area top (lines.map runs) =
      ((lines.drop top).take area.height).zipIdx.foldl (fun s (line, i) =>
        s.drawLine area.x (area.y + i) area.width (runs line)) s := by
  unfold Screen.drawLines
  rw [room, if_neg Bool.false_ne_true, ← List.map_drop, ← List.map_take, List.zipIdx_map,
    List.foldl_map]
  rfl

end ScriptSession.Playground
