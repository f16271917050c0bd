import ScriptSession.Proofs.Playground.Zipper

/-!
# The cursor in view

Drawing moves the view of the editor as little as it must for the cursor's line to be in it, and shows
the cursor in the row of that line (`Editor.scrolled_spec`). Lines are counted as far as a terminal
counts its rows; behind that, the last line that has a number stands for the cursor's line.

How far the view reaches is a sum that may leave the rows of a terminal, though no row of the text in
view does (`Editor.sumsFit_iff`). The column of the cursor is the number of characters in front of it:
that is the cell behind them if each of them takes one cell (`cursor_in_view`).
-/
namespace ScriptSession.Playground

/-! ## Cells of a text -/

/-- Controls are not drawn. -/
def isControl (c : Char) : Bool := c.toNat < 0x20 || (0x7F ≤ c.toNat && c.toNat < 0xA0)

/-- The cells that a character takes by itself. -/
def shownWidth (c : Char) : Nat := if isControl c then 0 else Text.charWidth c

theorem clusterWidth_singleton (c : Char) : Text.clusterWidth [c] = Text.charWidth c :=
  Nat.zero_add _

theorem glyphs_singletons {line : List Char} (apart : Text.clusters line = line.map ([·])) :
    Screen.glyphs [{ text := String.ofList line }] =
      line.filterMap fun c => if isControl c then none else some ([c], Text.charWidth c, {}) := by
  simp only [Screen.glyphs, List.flatMap_cons, List.flatMap_nil, List.append_nil, String.toList_ofList,
    apart, List.filterMap_map]
  congr 1
  funext c
  simp only [Function.comp_apply, List.any_cons, List.any_nil, Bool.or_false, clusterWidth_singleton]
  rfl

/-- The cells that drawing a text takes, if no two of its characters are one symbol. -/
theorem total_glyphs {line : List Char} (apart : Text.clusters line = line.map ([·])) :
    total (·.2.1) (Screen.glyphs [{ text := String.ofList line }]) = total shownWidth line := by
  rw [glyphs_singletons apart]
  clear apart
  induction line with
  | nil => rfl
  | cons c line ih =>
    rw [total_cons, ← ih, List.filterMap_cons, shownWidth]
    by_cases control : isControl c = true
    · simp only [control, if_true, Nat.zero_add]
    · simp only [control, if_false, Bool.false_eq_true, total_cons]

namespace Editor

/-! ## Scrolling -/

variable (e : Editor) {height : Nat}

/-- The row of the cursor's line in the text, as far as rows are counted. -/
def row (e : Editor) : Nat := min maxCell e.place.1

/-- The row of the cursor's line is in view. -/
theorem scrolled_spec (room : 0 < height) :
    e.scrolled height ≤ e.row ∧ e.row < e.scrolled height + height := by
  unfold scrolled row
  dsimp only
  split
  · omega
  · split <;> omega

theorem scrolled_le (bound : e.scroll ≤ maxCell) : e.scrolled height ≤ maxCell := by
  unfold scrolled
  dsimp only
  split
  · omega
  · split <;> omega

theorem scroll_press (key : Key) (control : Bool) : (e.press key control).scroll = e.scroll := by
  cases key with
  | char c => cases control <;> rfl
  | backspace =>
    unfold press deleteBackward
    dsimp only
    split <;> rfl
  | left =>
    unfold press moveLeft
    dsimp only
    split <;> rfl
  | right =>
    unfold press moveRight
    dsimp only
    split <;> rfl
  | up =>
    unfold press moveUp
    dsimp only
    split <;> rfl
  | down =>
    unfold press moveDown
    dsimp only
    split <;> rfl
  | _ => rfl

theorem scroll_next (bound : e.scroll ≤ maxCell) (x : Editor.Step) :
    (e.next x).scroll ≤ maxCell := by
  cases x with
  | set text => exact bound
  | clear => exact Nat.zero_le _
  | key key control =>
    rw [next, scroll_press]
    exact bound
  | draw screen area focused => exact e.scrolled_le bound

theorem scroll_after (past : List Editor.Step) : (({} : Editor).after past).scroll ≤ maxCell := by
  induction past using List.reverseRecOn with
  | nil => exact Nat.zero_le _
  | append_singleton past x ih =>
    rw [after_concat]
    exact scroll_next _ ih x

/-! ## What drawing adds up -/

/-- The sums that drawing forms are coordinates: how far the view reaches, if the cursor's line is not
above it; where the view starts if it has to go down; and the row in which the cursor is shown. -/
structure SumsFit (e : Editor) (inner : Rect) : Prop where
  reach : e.scroll ≤ e.row → e.scroll + inner.height ≤ maxCell
  start : e.scroll + inner.height ≤ e.row → e.row - inner.height + 1 ≤ maxCell
  shown : inner.y + (e.row - e.scrolled inner.height) ≤ maxCell

/-- Only the first of them can go wrong. -/
theorem sumsFit_iff {inner : Rect} (room : 0 < inner.height) (bottom : inner.bottom ≤ maxCell) :
    e.SumsFit inner ↔ e.row < e.scroll ∨ e.scroll + inner.height ≤ maxCell := by
  constructor
  · intro fit
    by_cases above : e.row < e.scroll
    · exact .inl above
    · exact .inr (fit.reach (Nat.le_of_not_lt above))
  · intro fits
    have bound : e.row ≤ maxCell := Nat.min_le_left ..
    obtain ⟨low, high⟩ := e.scrolled_spec room
    unfold Rect.bottom at bottom
    constructor <;> omega

/-- Behind the last line with a number there is none in view. -/
theorem in_view_iff {inner : Rect} (room : 0 < inner.height) (bound : e.scroll ≤ maxCell)
    (fit : e.SumsFit inner) : e.place.1 ≤ maxCell ↔ e.scrolled inner.height ≤ e.place.1 ∧
      e.place.1 < e.scrolled inner.height + inner.height := by
  have reach := fit.reach
  unfold scrolled row at *
  dsimp only
  split
  · omega
  · split <;> omega

/-! ## What is drawn where -/

/-- The lines in view, from the top. -/
def view (e : Editor) (height : Nat) : List (List Char) :=
  ((displayLines e.buffer).drop e.scroll).take height

/-- Draws the lines in view, each on a row of its own from the top of the area on. -/
def ink (e : Editor) (s : Screen) (inner : Rect) : Screen :=
  (e.view inner.height).zipIdx.foldl (fun s (line, i) =>
    s.drawLine inner.x (inner.y + i) inner.width [{ text := String.ofList line }]) s

/-- The editor with its cursor's line in view. -/
def settled (e : Editor) (height : Nat) : Editor := { e with scroll := e.scrolled height }

theorem draw_eq (screen : Screen) {area : Rect} (room : area.inner.isEmpty = false) : ∃ s,
    e.draw screen area true = (e.settled area.inner.height,
      { (e.settled area.inner.height).ink s area.inner with
        cursor := some ((e.settled area.inner.height).cursorCell area.inner) }) := by
  unfold draw
  dsimp only
  rw [room, if_pos rfl, Screen.drawLines_map (fun line => [{ text := String.ofList line }]) _ _ room]
  exact ⟨_, rfl⟩

end Editor

/-- The cursor's line as it is shown: without a carriage return in front of its line feed. -/
def Zipper.shownLine (z : Zipper) : List Char :=
  if z.below = [] then z.lineFront ++ z.lineBack else withoutReturn (z.lineFront ++ z.lineBack)

theorem displayLines_last (before : List (List Char)) (line text : List Char)
    (lines : textLines text = before ++ [line]) :
    (displayLines text)[before.length]?.getD [] = line := by
  unfold displayLines
  rw [lines]
  simp only [List.dropLast_concat, List.getLastD_concat]
  rw [List.getElem?_append_right (List.length_map _).le, List.length_map, Nat.sub_self]
  cases line with
  | nil => rfl
  | cons c line => rfl

theorem displayLines_between (before behind : List (List Char)) (line text : List Char)
    (lines : textLines text = before ++ line :: behind) (some : behind ≠ []) :
    (displayLines text)[before.length]? = withoutReturn line := by
  have dropLast : (before ++ line :: behind).dropLast = before ++ line :: behind.dropLast := by
    rw [List.dropLast_append_cons, List.dropLast_cons_of_ne_nil some]
  unfold displayLines
  rw [lines]
  dsimp only
  rw [dropLast, List.map_append, List.map_cons, List.append_assoc,
    List.getElem?_append_right (List.length_map _).le, List.length_map, Nat.sub_self]
  rfl

theorem Zipper.displayLines_row (z : Zipper) :
    (displayLines z.text)[z.above.count '\n']?.getD [] = z.shownLine := by
  obtain ⟨before, behind, lines, row, -, count⟩ := z.borders.textLines_eq z.inLine_line
  rw [← z.text_eq] at lines
  rw [← row, shownLine]
  rcases below_cases z.back with none | ⟨text, some⟩
  · have none : z.below = [] := none
    rw [none] at count
    obtain rfl : behind = [] := List.length_eq_zero_iff.mp count
    rw [if_pos none]
    exact displayLines_last before _ _ lines
  · have some : z.below = '\n' :: text := some
    rw [some, List.count_cons_self] at count
    have more : behind ≠ [] := List.ne_nil_of_length_eq_add_one count
    rw [if_neg (some ▸ List.cons_ne_nil _ _), displayLines_between before behind _ _ lines more]
    rfl

/-! ## The cursor's cell -/

section Areas

variable {area : Rect} (room : area.inner.isEmpty = false)
include room

theorem Rect.inner_positive : 0 < area.inner.width ∧ 0 < area.inner.height := by
  simp only [Rect.isEmpty, Bool.or_eq_false_iff, decide_eq_false_iff_not] at room
  omega

theorem Rect.inner_right (right : area.right ≤ maxCell) : area.inner.right ≤ maxCell := by
  have positive := (Rect.inner_positive room).1
  simp only [Rect.right, Rect.inner] at *
  omega

theorem Rect.inner_bottom (bottom : area.bottom ≤ maxCell) : area.inner.bottom ≤ maxCell := by
  have positive := (Rect.inner_positive room).2
  simp only [Rect.bottom, Rect.inner] at *
  omega

end Areas

/-- The cell, given by its column and its row, lies in the area. -/
def Rect.Holds (r : Rect) (cell : Nat × Nat) : Prop :=
  (r.x ≤ cell.1 ∧ cell.1 < r.right) ∧ r.y ≤ cell.2 ∧ cell.2 < r.bottom

/-- Where each character takes a cell, the cells are counted by the characters. -/
theorem total_shownWidth {line : List Char} (single : ∀ c ∈ line, shownWidth c = 1) :
    total shownWidth line = line.length := by
  induction line with
  | nil => rfl
  | cons c line ih =>
    rw [List.forall_mem_cons] at single
    rw [total_cons, single.1, ih single.2, List.length_cons, Nat.add_comm]

namespace Editor

section Cell

variable {e : Editor} {inner : Rect}

/-- As many cells to the right as there are characters, up to the last one. -/
theorem cursorCell_eq (wide : 0 < inner.width) (right : inner.right ≤ maxCell) :
    e.cursorCell inner =
      (inner.x + min e.place.2 (inner.width - 1), inner.y + (e.row - e.scroll)) := by
  unfold cursorCell cursorColumn row
  unfold Rect.right at *
  simp only [Prod.mk.injEq, and_true]
  omega

theorem holds_cursorCell (wide : 0 < inner.width) (right : inner.right ≤ maxCell)
    (low : e.scroll ≤ e.row) (high : e.row < e.scroll + inner.height) :
    inner.Holds (e.cursorCell inner) := by
  rw [cursorCell_eq wide right]
  unfold Rect.Holds Rect.right Rect.bottom
  dsimp only
  omega

theorem sumsFit_of_few (room : 0 < inner.height) (bottom : inner.bottom ≤ maxCell)
    (few : e.place.1 + inner.height ≤ maxCell) : e.SumsFit inner := by
  rw [sumsFit_iff e room bottom, row]
  omega

end Cell

section Shown

variable {e : Editor} {z : Zipper} (same : e.Shows z)
include same

/-- The cursor's line is drawn as far below the first line in view as it comes after it. -/
theorem Shows.view {height : Nat} (low : e.scroll ≤ z.above.count '\n')
    (high : z.above.count '\n' < e.scroll + height) :
    (e.view height)[z.above.count '\n' - e.scroll]?.getD [] = z.shownLine := by
  have within : z.above.count '\n' - e.scroll < height := by omega
  unfold Editor.view
  rw [List.getElem?_take_of_lt within, List.getElem?_drop, Nat.add_sub_cancel' low, same.buffer]
  exact z.displayLines_row

theorem Shows.settled (height : Nat) : (e.settled height).Shows z := ⟨same.buffer, same.cursor⟩

theorem Shows.row : e.row = min maxCell (z.above.count '\n') := by
  rw [Editor.row, same.place]

end Shown

end Editor

/-- Whatever has happened to an editor, drawing it in an area with room inside forms only coordinates as
long as the first line in view and the area's rows add up to one, or the cursor's line is above the view.
Then the cursor's line is in view if it is one of the lines that have a number, and the cursor is shown in
the area, in the row where that line is drawn. Its column is the number of characters in front of it, up
to the area's last one. That is the cell behind them if each takes one cell, and else just if it happens
to be. -/
theorem cursor_in_view (past : List Editor.Step) (screen : Screen) {area : Rect}
    (right : area.right ≤ maxCell) (bottom : area.bottom ≤ maxCell)
    (room : area.inner.isEmpty = false) :
    let e := ({} : Editor).after past
    let z := ({} : Zipper).after past
    let inner := area.inner
    let drawn := e.draw screen area true
    let top := drawn.1.scroll
    let row := z.above.count '\n'
    let cells := total shownWidth z.lineFront
    (e.SumsFit inner ↔ min maxCell row < e.scroll ∨ e.scroll + inner.height ≤ maxCell) ∧
    (row + inner.height ≤ maxCell → e.SumsFit inner) ∧
    (Text.clusters z.lineFront = z.lineFront.map ([·]) →
      total (·.2.1) (Screen.glyphs [{ text := String.ofList z.lineFront }]) = cells) ∧
    (e.SumsFit inner → (row ≤ maxCell ↔ top ≤ row ∧ row < top + inner.height) ∧
      ∃ s x y, drawn.2 = { drawn.1.ink s inner with cursor := some (x, y) } ∧
        inner.Holds (x, y) ∧
        (row ≤ maxCell → y = inner.y + (row - top) ∧
          (drawn.1.view inner.height)[row - top]?.getD [] = z.shownLine) ∧
        (cells < inner.width → (x = inner.x + cells ↔
          z.column = cells ∨ cells = inner.width - 1 ∧ cells < z.column)) ∧
        ((∀ c ∈ z.lineFront, shownWidth c = 1) → cells < inner.width → x = inner.x + cells)) := by
  intro e z inner drawn top row cells
  have same : e.Shows z := Editor.shows_after past
  obtain ⟨wide, high⟩ := Rect.inner_positive room
  have inRight := Rect.inner_right room right
  have inBottom := Rect.inner_bottom room bottom
  obtain ⟨s, draws⟩ := e.draw_eq screen room
  have settles : drawn.1 = e.settled inner.height := congrArg Prod.fst draws
  have point : (e.settled inner.height).cursorCell inner =
      (inner.x + min z.column (inner.width - 1), inner.y + (e.row - top)) := by
    rw [Editor.cursorCell_eq wide inRight, (same.settled _).place, (same.settled _).row, ← same.row]
    rfl
  refine ⟨?_, ?_, total_glyphs, ?_⟩
  · rw [← same.row]
    exact e.sumsFit_iff high inBottom
  · intro few
    refine Editor.sumsFit_of_few high inBottom ?_
    rw [same.place]
    exact few
  · intro fit
    have inView : row ≤ maxCell ↔ top ≤ row ∧ row < top + inner.height := by
      have numbered := e.in_view_iff high (Editor.scroll_after past) fit
      rw [same.place] at numbered
      exact numbered
    obtain ⟨low, below⟩ := e.scrolled_spec high
    have inside := Editor.holds_cursorCell (e := e.settled inner.height) wide inRight low below
    rw [point] at inside
    refine ⟨inView, s, _, _, ?_, inside, ?_, ?_, ?_⟩
    · rw [settles, ← point]
      exact congrArg Prod.snd draws
    · intro numbered
      obtain ⟨low, below⟩ := inView.mp numbered
      rw [same.row, Nat.min_eq_right numbered]
      exact ⟨rfl, (same.settled _).view low below⟩
    · intro fits
      omega
    · intro single fits
      have counted : z.column = cells := (total_shownWidth single).symm
      rw [counted, Nat.min_eq_left (Nat.le_sub_one_of_lt fits)]

theorem cursor_behind_accent :
    let e := ({} : Editor).after [.set "ab\ncdé"]
    let area : Rect := ⟨0, 1, 12, 4⟩
    area.right ≤ maxCell ∧ area.bottom ≤ maxCell ∧ area.inner.isEmpty = false ∧
    (e.draw (.blank 24 6) area true).2.cursor = some (4, 3) := by
  intro e area
  have right : area.right ≤ maxCell := by decide
  have bottom : area.bottom ≤ maxCell := by decide
  obtain ⟨-, few, -, shown⟩ := cursor_in_view [.set "ab\ncdé"] (.blank 24 6) right bottom rfl
  obtain ⟨-, s, x, y, drawn, -, numbered, -, single⟩ := shown (few (by decide))
  have narrow : ∀ c ∈ (({} : Zipper).after [.set "ab\ncdé"]).lineFront, shownWidth c = 1 := by
    have line : (({} : Zipper).after [.set "ab\ncdé"]).lineFront = ['c', 'd', 'é'] := by decide
    simp only [line, List.mem_cons, List.not_mem_nil, or_false]
    rintro c (rfl | rfl | rfl) <;> decide
  have column : x = 4 := (single narrow (by decide)).trans (by decide)
  have line : y = 3 := (numbered (by decide)).1.trans (by decide)
  rw [column, line] at drawn
  exact ⟨right, bottom, rfl, congrArg Screen.cursor drawn⟩

/-! ## Where the cursor is out of place -/

/-- A text of empty lines, with the cursor behind the last of them. -/
def lineFeeds (n : Nat) : Editor.Step := .set (String.ofList (List.replicate n '\n'))

/-- An area with room for one line. -/
def oneLine : Rect := ⟨0, 1, 12, 3⟩

section LineFeeds

variable (n : Nat)

theorem count_above_lineFeeds : (({} : Zipper).next (lineFeeds n)).above.count '\n' = n := by
  have front : (({} : Zipper).next (lineFeeds n)).front = List.replicate n '\n' :=
    String.toList_ofList
  rw [Zipper.above, front, List.rdropWhile, List.reverse_replicate]
  cases n with
  | zero => rfl
  | succ n =>
    have stays : (List.replicate (n + 1) '\n').dropWhile inLine = List.replicate (n + 1) '\n' := by
      rw [List.replicate_succ, List.dropWhile_cons_of_neg (by decide)]
    rw [stays, List.reverse_replicate, List.count_replicate_self]

end LineFeeds

/-- Once the cursor stands behind the rows of a terminal and its line has been drawn, drawing again adds up
to no coordinate. -/
theorem Editor.not_sumsFit_settled (e : Editor) {inner : Rect} (room : 0 < inner.height)
    (far : maxCell ≤ e.place.1) : ¬ (e.settled inner.height).SumsFit inner := by
  intro fit
  have last : e.row = maxCell := Nat.min_eq_left far
  obtain ⟨low, high⟩ := e.scrolled_spec room
  have reach : e.scrolled inner.height + inner.height ≤ maxCell := fit.reach low
  omega

/-- Behind a character of two cells the cursor is shown within it. Where the text has more line feeds than
a terminal has rows, the line of the cursor is not always in view, nor is how far the view reaches always
the row of a terminal. -/
theorem cursor_out_of_place :
    (total shownWidth (({} : Zipper).after [.set "日"]).lineFront < oneLine.inner.width ∧
      ((({} : Editor).after [.set "日"]).draw (.blank 24 5) oneLine true).2.cursor ≠
        some (oneLine.inner.x + total shownWidth (({} : Zipper).after [.set "日"]).lineFront,
          oneLine.inner.y)) ∧
    (¬ ∀ past, (({} : Zipper).after past).above.count '\n' <
      ((({} : Editor).after past).draw (.blank 24 5) oneLine true).1.scroll +
        oneLine.inner.height) ∧
    ¬ ∀ past, (({} : Editor).after past).SumsFit oneLine.inner := by
  obtain ⟨n, many⟩ : ∃ n, maxCell < n := ⟨_, Nat.lt_succ_self _⟩
  have height : oneLine.inner.height = 1 := rfl
  have row : (({} : Zipper).after [lineFeeds n]).above.count '\n' = n := count_above_lineFeeds n
  refine ⟨?_, ?_, ?_⟩
  · have cells : total shownWidth (({} : Zipper).after [.set "日"]).lineFront = 2 := by
      decide +kernel
    have cursor : ((({} : Editor).after [.set "日"]).draw (.blank 24 5) oneLine true).2.cursor =
      some (2, 2) := rfl
    rw [cells, cursor]
    decide
  · intro below
    have below := below [lineFeeds n]
    have top := Editor.scroll_next _ (Editor.scroll_after [lineFeeds n])
      (.draw (.blank 24 5) oneLine true)
    rw [Editor.next] at top
    rw [row, height] at below
    omega
  · intro fits
    have far : maxCell ≤ (({} : Editor).after [lineFeeds n]).place.1 := by
      rw [(Editor.shows_after [lineFeeds n]).place, row]
      exact many.le
    have again := fits ([lineFeeds n] ++ [.draw (.blank 24 5) oneLine true])
    rw [Editor.after_concat] at again
    exact Editor.not_sumsFit_settled _ (height ▸ Nat.one_pos) far again

end ScriptSession.Playground
