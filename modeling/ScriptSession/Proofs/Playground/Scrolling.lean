import Mathlib.Data.List.Induction
import ScriptSession.Proofs.Playground.TextLines

/-!
# Scrolling the transcript

The transcript remembers how many lines it is scrolled back from the newest one. It does not know how many
of them fit: it can be scrolled back beyond the place where its first line is the first one in view
(`Transcript.beyond`), as long as one line would stay in view (`Transcript.scrollBack_after`). What it is
beyond has to be scrolled down again before the view moves.

Apart from that the view moves as far as it is told and stops at both ends (`view_of_history`).
-/
namespace ScriptSession.Playground

namespace Transcript

/-! ## What happens to a transcript -/

inductive Step where
  | push (marker : Marker) (text : String)
  | clear
  | up (lines : Nat)
  | down (lines : Nat)

def next (t : Transcript) : Step → Transcript
  | .push marker text => t.push marker text
  | .clear => t.clear
  | .up lines => t.scrollUp lines
  | .down lines => t.scrollDown lines

def after (t : Transcript) (past : List Step) : Transcript := past.foldl next t

theorem after_concat (t : Transcript) (past : List Step) (x : Step) :
    t.after (past ++ [x]) = (t.after past).next x :=
  List.foldl_concat ..

variable (t : Transcript)

/-! ## What is in view -/

/-- The lines in view where so many fit. -/
def view (t : Transcript) (height : Nat) : List TranscriptLine :=
  (t.lines.drop (t.top height)).take height

/-- How far the transcript is scrolled back beyond its first line. -/
def beyond (t : Transcript) (height : Nat) : Nat := t.scrollBack - (t.lineCount - height)

/-- Whether the line with this number is in view. -/
def InView (t : Transcript) (height i : Nat) : Prop := t.top height ≤ i ∧ i < t.top height + height

theorem draw_eq (screen : Screen) {area : Rect} (room : area.inner.isEmpty = false) : ∃ s,
    t.draw screen area = (t.view area.inner.height).zipIdx.foldl (fun s (line, i) =>
      s.drawLine area.inner.x (area.inner.y + i) area.inner.width line.runs) s := by
  refine ⟨screen.drawFrame area {} " Transcript ", ?_⟩
  unfold draw view
  dsimp only
  rw [Screen.drawLines_map _ _ _ room]

theorem length_lines : t.lines.length = total (·.lines.length) t.entries := by
  unfold lines
  induction t.entries with
  | nil => rfl
  | cons entry entries ih =>
    rw [List.flatMap_cons, List.length_append, ih, List.length_map, List.length_zipIdx, total_cons]

theorem lineCount_eq : t.lineCount = min maxLines t.lines.length := by
  rw [lineCount, length_lines]

theorem lineCount_le : t.lineCount ≤ maxLines := Nat.min_le_left ..

theorem lineCount_scrollUp (n : Nat) : (t.scrollUp n).lineCount = t.lineCount := rfl

theorem lineCount_scrollDown (n : Nat) : (t.scrollDown n).lineCount = t.lineCount := rfl

/-- What is forgotten is older than the newest entry. -/
theorem entries_push (marker : Marker) (text : String) : (t.push marker text).entries =
    t.entries.drop (t.entries.length + 1 - maxEntries) ++ [⟨marker, text⟩] := by
  have older : t.entries.length + 1 - maxEntries ≤ t.entries.length := by
    unfold maxEntries
    omega
  unfold push
  dsimp only
  rw [List.length_append, List.length_singleton, List.drop_append_of_le_length older]

/-- An entry has a line even if nothing is written in it. -/
theorem lines_push (marker : Marker) (text : String) : 0 < (t.push marker text).lines.length := by
  have newest : 0 < total (·.lines.length) [(⟨marker, text⟩ : Entry)] := by
    rw [total_cons, Entry.lines, length_textLines]
    omega
  rw [length_lines, entries_push, total_append]
  omega

/-! ## How far it can be scrolled -/

theorem scrollBack_next (bound : t.scrollBack ≤ t.lineCount - 1) (x : Step) :
    (t.next x).scrollBack ≤ (t.next x).lineCount - 1 := by
  cases x with
  | push marker text => exact Nat.zero_le _
  | clear => exact Nat.zero_le _
  | up lines => exact Nat.min_le_right ..
  | down lines => exact (Nat.sub_le ..).trans bound

/-- Of all lines one is not scrolled back. -/
theorem scrollBack_after (past : List Step) :
    (({} : Transcript).after past).scrollBack ≤ (({} : Transcript).after past).lineCount - 1 := by
  induction past using List.reverseRecOn with
  | nil => exact Nat.zero_le _
  | append_singleton past x ih =>
    rw [after_concat]
    exact scrollBack_next _ ih x

section Laws

variable {t} {height : Nat} (room : 0 < height) (bound : t.scrollBack ≤ t.lineCount - 1)

include room bound in
theorem beyond_le : t.beyond height ≤ min height t.lineCount - 1 := by
  unfold beyond
  omega

include room in
theorem top_scrollUp (n : Nat) : (t.scrollUp n).top height = t.top height - n := by
  have counted := t.lineCount_le
  unfold top
  rw [lineCount_scrollUp, scrollUp]
  dsimp only
  omega

include room bound in
theorem beyond_scrollUp (n : Nat) : (t.scrollUp n).beyond height =
    min (t.beyond height + (n - t.top height)) (min height t.lineCount - 1) := by
  have counted := t.lineCount_le
  unfold beyond top
  rw [lineCount_scrollUp, scrollUp]
  dsimp only
  by_cases more : height ≤ t.lineCount
  · rw [Nat.min_eq_left more]
    omega
  · rw [Nat.min_eq_right (Nat.le_of_not_le more)]
    omega

theorem top_scrollDown (n : Nat) : (t.scrollDown n).top height =
    min (t.lineCount - height) (t.top height + (n - t.beyond height)) := by
  unfold beyond top
  rw [lineCount_scrollDown, scrollDown]
  dsimp only
  omega

theorem beyond_scrollDown (n : Nat) :
    (t.scrollDown n).beyond height = t.beyond height - n := by
  unfold beyond
  rw [lineCount_scrollDown, scrollDown]
  dsimp only
  omega

section Newest

variable (newest : t.scrollBack = 0)
include newest

theorem top_of_newest : t.top height = min maxLines t.lines.length - height := by
  rw [top, newest, lineCount_eq, Nat.sub_zero]

theorem beyond_of_newest : t.beyond height = 0 := by
  rw [beyond, newest, Nat.zero_sub]

include room in
/-- The last line is in view if all lines are counted, or as many fit. -/
theorem inView_last_iff (some : 0 < t.lines.length) :
    t.InView height (t.lines.length - 1) ↔ t.lines.length ≤ max maxLines height := by
  rw [InView, top_of_newest newest]
  by_cases few : t.lines.length ≤ maxLines
  · rw [Nat.min_eq_right few]
    omega
  · rw [Nat.min_eq_left (Nat.le_of_not_le few)]
    omega

end Newest

end Laws

end Transcript

/-- Whatever has happened to a transcript, where so many lines fit: a new entry brings the newest line into
view if all lines are counted. Scrolling up moves the view up, to the first line at most; what is left is
how far it is beyond that, as long as one line would stay in view. Scrolling down takes that back first;
then it moves the view down, to the last line at most. -/
theorem view_of_history (past : List Transcript.Step) {height : Nat} (room : 0 < height) :
    let t := ({} : Transcript).after past
    let lines := min maxLines t.lines.length
    (∀ screen area, area.inner.isEmpty = false → area.inner.height = height → ∃ s,
      t.draw screen area = (t.view height).zipIdx.foldl (fun s (line, i) =>
        s.drawLine area.inner.x (area.inner.y + i) area.inner.width line.runs) s) ∧
    (∀ marker text,
      let t' := t.push marker text
      t'.top height = min maxLines t'.lines.length - height ∧ t'.beyond height = 0 ∧
      0 < t'.lines.length ∧
      (t'.InView height (t'.lines.length - 1) ↔ t'.lines.length ≤ max maxLines height)) ∧
    (t.clear.lines = [] ∧ t.clear.top height = 0 ∧ t.clear.beyond height = 0) ∧
    (∀ n, (t.scrollUp n).lines = t.lines ∧ (t.scrollUp n).top height = t.top height - n ∧
      (t.scrollUp n).beyond height =
        min (t.beyond height + (n - t.top height)) (min height lines - 1)) ∧
    (∀ n, (t.scrollDown n).lines = t.lines ∧ (t.scrollDown n).top height =
        min (lines - height) (t.top height + (n - t.beyond height)) ∧
      (t.scrollDown n).beyond height = t.beyond height - n) ∧
    t.beyond height ≤ min height lines - 1 := by
  intro t lines
  have bound : t.scrollBack ≤ t.lineCount - 1 := Transcript.scrollBack_after past
  have counted : t.lineCount = lines := t.lineCount_eq
  refine ⟨?_, ?_, ?_, ?_, ?_, ?_⟩
  · rintro screen area inside rfl
    exact t.draw_eq screen inside
  · intro marker text t'
    have newest : t'.scrollBack = 0 := rfl
    have some : 0 < t'.lines.length := t.lines_push marker text
    exact ⟨Transcript.top_of_newest newest, Transcript.beyond_of_newest newest, some,
      Transcript.inView_last_iff room newest some⟩
  · have newest : t.clear.scrollBack = 0 := rfl
    have none : t.clear.lines = [] := rfl
    refine ⟨none, ?_, Transcript.beyond_of_newest newest⟩
    rw [Transcript.top_of_newest newest, none, List.length_nil, Nat.min_zero, Nat.zero_sub]
  · intro n
    refine ⟨rfl, Transcript.top_scrollUp room n, ?_⟩
    rw [← counted]
    exact Transcript.beyond_scrollUp room bound n
  · intro n
    refine ⟨rfl, ?_, Transcript.beyond_scrollDown n⟩
    rw [← counted]
    exact Transcript.top_scrollDown n
  · rw [← counted]
    exact Transcript.beyond_le room bound

/-- Three entries, scrolled back beyond the first one. -/
def scrolledAway : List Transcript.Step :=
  [.push .notice "a", .push .notice "b", .push .notice "c", .up 5]

theorem view_after_scrolling_away :
    0 < 2 ∧ (({} : Transcript).after scrolledAway).top 2 = 0 ∧
    (({} : Transcript).after scrolledAway).beyond 2 = 1 ∧
    ((({} : Transcript).after scrolledAway).scrollDown 1).top 2 = 0 ∧
    ((({} : Transcript).after scrolledAway).scrollDown 2).top 2 = 1 := by
  have room : 0 < 2 := Nat.two_pos
  have top : (({} : Transcript).after scrolledAway).top 2 = 0 := by decide
  have beyond : (({} : Transcript).after scrolledAway).beyond 2 = 1 := by decide
  have lines : min maxLines (({} : Transcript).after scrolledAway).lines.length = 3 := by decide
  obtain ⟨-, -, -, -, down, -⟩ := view_of_history scrolledAway room
  refine ⟨room, top, beyond, ?_, ?_⟩
  · rw [(down 1).2.1, top, beyond, lines]
    rfl
  · rw [(down 2).2.1, top, beyond, lines]
    rfl

/-- Scrolling down does not always move the view while there are lines below it, and of a very long entry
the newest line is not in view. -/
theorem view_does_not_move :
    (¬ ∀ past n, ((({} : Transcript).after past).scrollDown n).top 2 =
      min ((({} : Transcript).after past).lines.length - 2)
        ((({} : Transcript).after past).top 2 + n)) ∧
    ¬ ∀ text, (({} : Transcript).push .notice text).InView 1
      ((({} : Transcript).push .notice text).lines.length - 1) := by
  constructor
  · intro moves
    exact absurd (moves scrolledAway 1) (by decide)
  · intro always
    obtain ⟨n, many⟩ : ∃ n, maxLines < n := ⟨_, Nat.lt_succ_self _⟩
    have length : (({} : Transcript).push .notice
        (String.ofList (List.replicate n '\n'))).lines.length = n + 1 := by
      have alone := ({} : Transcript).entries_push .notice (String.ofList (List.replicate n '\n'))
      rw [List.drop_nil, List.nil_append] at alone
      rw [Transcript.length_lines, alone, total_cons, Entry.lines, String.toList_ofList,
        length_textLines, List.count_replicate_self]
      rfl
    have newest := always (String.ofList (List.replicate n '\n'))
    rw [Transcript.inView_last_iff Nat.one_pos rfl (length ▸ Nat.succ_pos n), length] at newest
    omega

end ScriptSession.Playground
