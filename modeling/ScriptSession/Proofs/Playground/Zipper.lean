import ScriptSession.Proofs.Playground.TextLines

/-!
# The editor as a zipper

The text in front of the cursor and the text behind it say all about the editor (`Zipper`): keys take
characters off their ends, put them there, or carry them from one to the other. Nothing is counted, and
no place can be wrong.

The editor counts bytes, rows and columns instead. It shows the zipper (`Editor.Shows`) after every key,
hence after whatever happens to it (`Editor.shows_after`), so its cursor stands between two characters
(`editor_is_zipper`).
-/
namespace ScriptSession.Playground

structure Zipper where
  front : List Char := []
  back : List Char := []
  deriving DecidableEq, Repr

namespace Zipper

def text (z : Zipper) : List Char := z.front ++ z.back

/-- The lines above the cursor's line, with their line feeds. -/
def above (z : Zipper) : List Char := z.front.rdropWhile inLine

/-- The cursor's line up to the cursor. -/
def lineFront (z : Zipper) : List Char := z.front.rtakeWhile inLine

/-- The cursor's line from the cursor on. -/
def lineBack (z : Zipper) : List Char := z.back.takeWhile inLine

/-- What stands below the cursor's line, with the line feed in front. -/
def below (z : Zipper) : List Char := z.back.dropWhile inLine

def column (z : Zipper) : Nat := z.lineFront.length

def insert (z : Zipper) (c : Char) : Zipper := { z with front := z.front ++ [c] }

def backspace (z : Zipper) : Zipper := { z with front := z.front.dropLast }

def delete (z : Zipper) : Zipper := { z with back := z.back.tail }

def left (z : Zipper) : Zipper :=
  match z.front.getLast? with
  | none => z
  | some c => { front := z.front.dropLast, back := c :: z.back }

def right (z : Zipper) : Zipper :=
  match z.back with
  | [] => z
  | c :: back => { front := z.front ++ [c], back := back }

def home (z : Zipper) : Zipper := { front := z.above, back := z.lineFront ++ z.back }

def lineEnd (z : Zipper) : Zipper := { front := z.front ++ z.lineBack, back := z.below }

/-- In a line between others: at the column, or at the end if the line is shorter. -/
def landing (above line below : List Char) (column : Nat) : Zipper :=
  { front := above ++ line.take column, back := line.drop column ++ below }

def up (z : Zipper) : Zipper :=
  if z.above = [] then z
  else
    let others := z.above.dropLast
    landing (others.rdropWhile inLine) (others.rtakeWhile inLine)
      ('\n' :: (z.lineFront ++ z.back)) z.column

def down (z : Zipper) : Zipper :=
  match z.below with
  | [] => z
  | _ :: others =>
    landing (z.front ++ z.lineBack ++ ['\n']) (others.takeWhile inLine) (others.dropWhile inLine)
      z.column

def press (z : Zipper) (key : Key) (control : Bool) : Zipper :=
  match key with
  | .char c => if control then z else z.insert c
  | .enter => z.insert '\n'
  | .tab => (z.insert ' ').insert ' '
  | .backspace => z.backspace
  | .delete => z.delete
  | .left => z.left
  | .right => z.right
  | .up => z.up
  | .down => z.down
  | .home => z.home
  | .lineEnd => z.lineEnd
  | .escape | .pageUp | .pageDown | .other => z

end Zipper

/-- Whether a key puts something in or takes something away. -/
def Key.edits : Key → Bool → Bool
  | .char _, control => !control
  | .enter, _ | .tab, _ | .backspace, _ | .delete, _ => true
  | _, _ => false

/-! ## What happens to an editor -/

inductive Editor.Step where
  | set (text : String)
  | clear
  | key (key : Key) (control : Bool)
  | draw (screen : Screen) (area : Rect) (focused : Bool)

def Editor.next (e : Editor) : Editor.Step → Editor
  | .set text => e.setText text
  | .clear => e.clear
  | .key key control => e.press key control
  | .draw screen area focused => (e.draw screen area focused).1

def Editor.after (e : Editor) (past : List Editor.Step) : Editor := past.foldl Editor.next e

theorem Editor.after_concat (e : Editor) (past : List Editor.Step) (x : Editor.Step) :
    e.after (past ++ [x]) = (e.after past).next x :=
  List.foldl_concat ..

def Zipper.next (z : Zipper) : Editor.Step → Zipper
  | .set text => { front := text.toList }
  | .clear => {}
  | .key key control => z.press key control
  | .draw .. => z

def Zipper.after (z : Zipper) (past : List Editor.Step) : Zipper := past.foldl Zipper.next z

theorem Zipper.after_concat (z : Zipper) (past : List Editor.Step) (x : Editor.Step) :
    z.after (past ++ [x]) = (z.after past).next x :=
  List.foldl_concat ..

/-! ## Lines around the cursor -/

theorem above_cases (cs : List Char) :
    cs.rdropWhile inLine = [] ∨ ∃ text, cs.rdropWhile inLine = text ++ ['\n'] := by
  rcases List.eq_nil_or_concat' (cs.rdropWhile inLine) with none | ⟨text, c, some⟩
  · exact .inl none
  · have last := List.rdropWhile_last_not inLine cs (some ▸ List.concat_ne_nil c text)
    simp only [some, List.getLast_append_singleton, inLine_iff, not_not] at last
    exact .inr ⟨text, last ▸ some⟩

theorem below_cases (cs : List Char) :
    cs.dropWhile inLine = [] ∨ ∃ text, cs.dropWhile inLine = '\n' :: text := by
  cases rest : cs.dropWhile inLine with
  | nil => exact .inl rfl
  | cons c text =>
    have head := List.head_dropWhile_not inLine (l := cs) (rest ▸ List.cons_ne_nil c text)
    simp only [rest, List.head_cons, inLine, decide_eq_false_iff_not, not_not] at head
    exact .inr ⟨text, head ▸ rfl⟩

theorem count_of_inLine {line : List Char} (plain : ∀ c ∈ line, inLine c = true) :
    line.count '\n' = 0 :=
  List.count_eq_zero.mpr fun mem => inLine_iff.mp (plain _ mem) rfl

theorem inLine_rtakeWhile (cs : List Char) : ∀ c ∈ cs.rtakeWhile inLine, inLine c = true :=
  fun _ mem => List.mem_rtakeWhile_imp mem

theorem inLine_takeWhile (cs : List Char) : ∀ c ∈ cs.takeWhile inLine, inLine c = true :=
  fun _ mem => List.mem_takeWhile_imp mem

namespace Zipper

variable (z : Zipper)

theorem front_eq : z.above ++ z.lineFront = z.front := List.rdropWhile_append_rtakeWhile

theorem back_eq : z.lineBack ++ z.below = z.back := List.takeWhile_append_dropWhile

theorem text_eq : z.text = z.above ++ (z.lineFront ++ z.lineBack ++ z.below) := by
  rw [text, ← z.front_eq, ← z.back_eq]
  simp only [List.append_assoc]

theorem borders : Borders z.above z.below := ⟨above_cases z.front, below_cases z.back⟩

theorem text_landing (above line below : List Char) (column : Nat) :
    (landing above line below column).text = above ++ (line ++ below) := by
  rw [text, landing, List.append_assoc, ← List.append_assoc (List.take ..), List.take_append_drop]

/-- There is a line above. -/
theorem up_cases : z.above = [] ∧ z.up = z ∨ ∃ others, z.above = others ++ ['\n'] ∧
    z.text = others ++ '\n' :: (z.lineFront ++ z.back) ∧
    z.up = landing (others.rdropWhile inLine) (others.rtakeWhile inLine)
      ('\n' :: (z.lineFront ++ z.back)) z.column := by
  rcases above_cases z.front with none | ⟨others, some⟩
  · exact .inl ⟨none, if_pos none⟩
  · have some : z.above = others ++ ['\n'] := some
    refine .inr ⟨others, some, ?_, ?_⟩
    · rw [text, ← z.front_eq, some]
      simp
    · rw [up, some, if_neg (List.concat_ne_nil _ _), List.dropLast_concat]

/-- There is a line below. -/
theorem down_cases : z.below = [] ∧ z.down = z ∨ ∃ others, z.below = '\n' :: others ∧
    z.text = z.front ++ z.lineBack ++ ['\n'] ++ others ∧
    z.down = landing (z.front ++ z.lineBack ++ ['\n']) (others.takeWhile inLine)
      (others.dropWhile inLine) z.column := by
  rcases below_cases z.back with none | ⟨others, some⟩
  · have none : z.below = [] := none
    exact .inl ⟨none, by rw [down, none]⟩
  · have some : z.below = '\n' :: others := some
    refine .inr ⟨others, some, ?_, ?_⟩
    · rw [text, ← z.back_eq, some]
      simp
    · rw [down, some]

theorem inLine_line : ∀ c ∈ z.lineFront ++ z.lineBack, inLine c = true :=
  List.forall_mem_append.mpr ⟨inLine_rtakeWhile z.front, inLine_takeWhile z.back⟩

end Zipper

/-! ## The editor shows the zipper -/

namespace Editor

/-- The cursor stands behind the bytes of the text in front of it. -/
structure Shows (e : Editor) (z : Zipper) : Prop where
  buffer : e.buffer = z.text
  cursor : e.cursor = byteLength z.front

namespace Shows

variable {e : Editor} {z : Zipper}

theorem split (h : e.Shows z) : e.split = (z.front, z.back) := by
  rw [Editor.split, h.buffer, h.cursor]
  exact splitBytes_append z.front z.back

theorem place (h : e.Shows z) : e.place = (z.above.count '\n', z.column) := by
  apply z.borders.place_eq (inLine_rtakeWhile z.front)
  rw [h.split]
  exact z.front_eq.symm

theorem insert (h : e.Shows z) (c : Char) : (e.insert c).Shows (z.insert c) := by
  unfold Editor.insert
  rw [h.split]
  constructor
  · simp [Zipper.text, Zipper.insert]
  · rw [Zipper.insert, byteLength_concat, h.cursor]

theorem deleteBackward (h : e.Shows z) : e.deleteBackward.Shows z.backspace := by
  unfold Editor.deleteBackward
  rw [h.split]
  rcases List.eq_nil_or_concat' z.front with none | ⟨front, c, some⟩
  · simp only [none, List.getLast?_nil]
    constructor
    · rw [h.buffer, Zipper.text, Zipper.text, Zipper.backspace, none]
      rfl
    · rw [h.cursor, Zipper.backspace, none]
      rfl
  · simp only [some, List.getLast?_concat, List.dropLast_concat]
    constructor
    · simp [Zipper.text, Zipper.backspace, some]
    · rw [h.cursor, Zipper.backspace, some, List.dropLast_concat, byteLength_concat]
      exact Nat.add_sub_cancel ..

theorem deleteForward (h : e.Shows z) : e.deleteForward.Shows z.delete := by
  unfold Editor.deleteForward
  rw [h.split]
  exact ⟨rfl, h.cursor⟩

theorem moveLeft (h : e.Shows z) : e.moveLeft.Shows z.left := by
  unfold Editor.moveLeft Zipper.left
  rw [h.split]
  rcases List.eq_nil_or_concat' z.front with none | ⟨front, c, some⟩
  · simp only [none, List.getLast?_nil]
    exact h
  · simp only [some, List.getLast?_concat, List.dropLast_concat]
    constructor
    · simp [h.buffer, Zipper.text, some]
    · rw [h.cursor, some, byteLength_concat]
      exact Nat.add_sub_cancel ..

theorem moveRight (h : e.Shows z) : e.moveRight.Shows z.right := by
  unfold Editor.moveRight Zipper.right
  rw [h.split]
  cases some : z.back with
  | nil => exact h
  | cons c back =>
    constructor
    · simp [h.buffer, Zipper.text, some]
    · rw [byteLength_concat, ← h.cursor]
      rfl

/-- The editor finds a column of a line by counting bytes from the start of the text. -/
theorem offset {above line below : List Char} (borders : Borders above below)
    (plain : ∀ c ∈ line, inLine c = true) (buffer : e.buffer = above ++ (line ++ below))
    (column : Nat) : { e with cursor := e.offsetOf (above.count '\n') column }.Shows
      (Zipper.landing above line below column) := by
  constructor
  · rw [Zipper.text_landing]
    exact buffer
  · exact borders.offsetOf_eq plain buffer column

theorem moveToLineStart (h : e.Shows z) : e.moveToLineStart.Shows z.home := by
  have lands := offset z.borders z.inLine_line (h.buffer.trans z.text_eq) 0
  have home : Zipper.landing z.above (z.lineFront ++ z.lineBack) z.below 0 = z.home := by
    simp only [Zipper.landing, Zipper.home, List.take_zero, List.drop_zero, List.append_nil,
      List.append_assoc, z.back_eq]
  unfold Editor.moveToLineStart
  rw [h.place]
  exact home ▸ lands

theorem moveToLineEnd (h : e.Shows z) : e.moveToLineEnd.Shows z.lineEnd := by
  have lands := offset z.borders z.inLine_line (h.buffer.trans z.text_eq) e.buffer.length
  have short : (z.lineFront ++ z.lineBack).length ≤ e.buffer.length := by
    rw [h.buffer, z.text_eq]
    simp only [List.length_append]
    omega
  have lineEnd : Zipper.landing z.above (z.lineFront ++ z.lineBack) z.below e.buffer.length =
      z.lineEnd := by
    simp only [Zipper.landing, Zipper.lineEnd, List.take_of_length_le short,
      List.drop_of_length_le short, ← List.append_assoc, z.front_eq, List.nil_append]
  unfold Editor.moveToLineEnd
  rw [h.place]
  exact lineEnd ▸ lands

theorem moveUp (h : e.Shows z) : e.moveUp.Shows z.up := by
  unfold Editor.moveUp
  rw [h.place]
  rcases z.up_cases with ⟨none, up⟩ | ⟨others, some, text, up⟩
  · rw [up, none]
    exact h
  · have line := inLine_rtakeWhile others
    have whole : others.rdropWhile inLine ++ others.rtakeWhile inLine = others :=
      List.rdropWhile_append_rtakeWhile
    have row : z.above.count '\n' = (others.rdropWhile inLine).count '\n' + 1 := by
      rw [some, List.count_append, ← whole, List.count_append, count_of_inLine line, whole]
      rfl
    have borders : Borders (others.rdropWhile inLine) ('\n' :: (z.lineFront ++ z.back)) :=
      ⟨above_cases others, .inr ⟨_, rfl⟩⟩
    have buffer : e.buffer = others.rdropWhile inLine ++ (others.rtakeWhile inLine ++
        '\n' :: (z.lineFront ++ z.back)) := by
      rw [h.buffer, text, ← List.append_assoc, whole]
    rw [up, row]
    exact offset borders line buffer z.column

theorem moveDown (h : e.Shows z) : e.moveDown.Shows z.down := by
  have rows : (textLines e.buffer).length = z.above.count '\n' + z.below.count '\n' + 1 := by
    rw [length_textLines, h.buffer, z.text_eq, List.count_append, List.count_append,
      count_of_inLine z.inLine_line]
    omega
  unfold Editor.moveDown
  rw [h.place]
  dsimp only
  rcases z.down_cases with ⟨none, down⟩ | ⟨others, some, text, down⟩
  · have last : ¬ z.above.count '\n' + 1 < (textLines e.buffer).length := by
      rw [rows, none, List.count_nil]
      omega
    rw [down, if_neg last]
    exact h
  · have more : z.above.count '\n' + 1 < (textLines e.buffer).length := by
      rw [rows, some, List.count_cons_self]
      omega
    have row : (z.front ++ z.lineBack ++ ['\n']).count '\n' = z.above.count '\n' + 1 := by
      rw [← z.front_eq, List.append_assoc z.above, List.count_append, List.count_append,
        count_of_inLine z.inLine_line]
      rfl
    have borders : Borders (z.front ++ z.lineBack ++ ['\n']) (others.dropWhile inLine) :=
      ⟨.inr ⟨_, rfl⟩, below_cases others⟩
    have buffer : e.buffer = z.front ++ z.lineBack ++ ['\n'] ++ (others.takeWhile inLine ++
        others.dropWhile inLine) := by
      rw [h.buffer, text, List.takeWhile_append_dropWhile]
    rw [down, if_pos more, ← row]
    exact offset borders (inLine_takeWhile others) buffer z.column

theorem press (h : e.Shows z) (key : Key) (control : Bool) :
    (e.press key control).Shows (z.press key control) := by
  cases key with
  | char c =>
    cases control with
    | false => exact h.insert c
    | true => exact h
  | enter => exact h.insert '\n'
  | tab => exact (h.insert ' ').insert ' '
  | backspace => exact h.deleteBackward
  | delete => exact h.deleteForward
  | left => exact h.moveLeft
  | right => exact h.moveRight
  | up => exact h.moveUp
  | down => exact h.moveDown
  | home => exact h.moveToLineStart
  | lineEnd => exact h.moveToLineEnd
  | escape | pageUp | pageDown | other => exact h

theorem next (h : e.Shows z) (x : Editor.Step) : (e.next x).Shows (z.next x) := by
  cases x with
  | set text => exact ⟨(List.append_nil _).symm, rfl⟩
  | clear => exact ⟨rfl, rfl⟩
  | key key control => exact h.press key control
  | draw screen area focused => exact ⟨h.buffer, h.cursor⟩

/-- The cursor stands between two characters. -/
theorem valid (h : e.Shows z) : (⟨e.cursor⟩ : String.Pos.Raw).IsValid e.text := by
  rw [String.Pos.Raw.isValid_iff_exists_append]
  refine ⟨String.ofList z.front, String.ofList z.back, ?_, ?_⟩
  · rw [Editor.text, h.buffer, ← String.ofList_append]
    rfl
  · rw [h.cursor, byteLength_eq]
    rfl

theorem cursor_le (h : e.Shows z) : e.cursor ≤ e.text.utf8ByteSize := by
  rw [Editor.text, ← byteLength_eq, h.buffer, h.cursor, Zipper.text, byteLength_append]
  omega

end Shows

theorem shows_after (past : List Editor.Step) :
    (({} : Editor).after past).Shows (({} : Zipper).after past) := by
  induction past using List.reverseRecOn with
  | nil => exact ⟨rfl, rfl⟩
  | append_singleton past x ih =>
    rw [Editor.after_concat, Zipper.after_concat]
    exact ih.next x

end Editor

/-! ## Keys that leave the text -/

namespace Zipper

variable (z : Zipper)

theorem text_left : z.left.text = z.text := by
  unfold left
  rcases List.eq_nil_or_concat' z.front with none | ⟨front, c, some⟩
  · rw [none]
    rfl
  · simp [some, text]

theorem text_right : z.right.text = z.text := by
  unfold right
  cases some : z.back with
  | nil => rfl
  | cons c back => simp [some, text]

theorem text_home : z.home.text = z.text := by
  rw [text, text, home, ← List.append_assoc, z.front_eq]

theorem text_lineEnd : z.lineEnd.text = z.text := by
  rw [text, text, lineEnd, List.append_assoc, z.back_eq]

theorem text_up : z.up.text = z.text := by
  rcases z.up_cases with ⟨-, up⟩ | ⟨others, -, text, up⟩
  · rw [up]
  · rw [up, text, text_landing, ← List.append_assoc, List.rdropWhile_append_rtakeWhile]

theorem text_down : z.down.text = z.text := by
  rcases z.down_cases with ⟨-, down⟩ | ⟨others, -, text, down⟩
  · rw [down]
  · rw [down, text, text_landing, List.takeWhile_append_dropWhile]

theorem text_press {key : Key} {control : Bool} (moves : key.edits control = false) :
    (z.press key control).text = z.text := by
  cases key with
  | char c =>
    cases control with
    | false => cases moves
    | true => rfl
  | enter | tab | backspace | delete => cases moves
  | left => exact z.text_left
  | right => exact z.text_right
  | up => exact z.text_up
  | down => exact z.text_down
  | home => exact z.text_home
  | lineEnd => exact z.text_lineEnd
  | escape | pageUp | pageDown | other => rfl

end Zipper

/-- Whatever has happened to an editor, its text and its cursor are those of the zipper to which the same
has happened. The cursor stands between two characters, so the text can be cut there, and the row and the
column of the cursor lead back to it. Keys that neither put in nor take away leave the text. -/
theorem editor_is_zipper (past : List Editor.Step) :
    let e := ({} : Editor).after past
    let z := ({} : Zipper).after past
    (e.cursor ≤ e.text.utf8ByteSize ∧ (⟨e.cursor⟩ : String.Pos.Raw).IsValid e.text) ∧
    (e.text = String.ofList (z.front ++ z.back) ∧
      e.cursor = (String.ofList z.front).utf8ByteSize ∧ e.split = (z.front, z.back)) ∧
    e.offsetOf e.place.1 e.place.2 = e.cursor ∧
    ∀ key control, key.edits control = false → (e.press key control).text = e.text := by
  intro e z
  have same : e.Shows z := Editor.shows_after past
  refine ⟨⟨same.cursor_le, same.valid⟩, ⟨?_, ?_, same.split⟩, ?_, ?_⟩
  · rw [Editor.text, same.buffer]
    rfl
  · rw [same.cursor, byteLength_eq]
  · rw [same.place]
    dsimp only
    rw [z.borders.offsetOf_eq z.inLine_line (same.buffer.trans z.text_eq), Zipper.column,
      List.take_left, z.front_eq, same.cursor]
  · intro key control moves
    rw [Editor.text, Editor.text, (same.press key control).buffer, z.text_press moves, same.buffer]

/-- From the end of the last line up over a short one, and a wide character put in there. -/
def climb : List Editor.Step :=
  [.set "aé\nx\n日本語", .key .up false, .key .up false, .key (.char '…') false]

theorem wide_character_put_in :
    (({} : Editor).after climb).text = "a…é\nx\n日本語" ∧ (({} : Editor).after climb).cursor = 4 ∧
    Key.lineEnd.edits false = false ∧ ((({} : Editor).after climb).press .lineEnd false).text =
      (({} : Editor).after climb).text := by
  obtain ⟨-, ⟨text, cursor, -⟩, -, leave⟩ := editor_is_zipper climb
  exact ⟨text.trans (by decide), cursor.trans (by decide), rfl, leave .lineEnd false rfl⟩

end ScriptSession.Playground
