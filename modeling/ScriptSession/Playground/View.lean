import ScriptSession.Playground.App
import ScriptSession.Playground.Screen
import ScriptSession.Product

/-! How the playground looks: a title bar, the editor beside the transcript, a status bar and, above
all of them, the dialog. -/
namespace ScriptSession.Playground

/-- The largest row or column of a terminal. -/
def maxCell : Nat := 65535

/-- The title bar, the main area and the status bar. Where there is not enough room, the status bar
comes before the title bar and both before the main area. -/
def verticalLayout (width height : Nat) : Rect × Rect × Rect :=
  let statusHeight := min 1 height
  let titleHeight := min 1 (height - statusHeight)
  let mainHeight := height - statusHeight - titleHeight
  (⟨0, 0, width, titleHeight⟩, ⟨0, titleHeight, width, mainHeight⟩,
    ⟨0, titleHeight + mainHeight, width, statusHeight⟩)

/-- Two halves, the left one larger by a cell where the width is odd. -/
def halves (area : Rect) : Rect × Rect :=
  let left := (area.width + 1) / 2
  ({ area with width := left }, { area with x := area.x + left, width := area.width - left })

/-- A popup in the middle of the area, with so many hundredths of its width but at least 20 cells.
-/
def centered (area : Rect) (percent height : Nat) : Rect :=
  let width := min (max (area.width * percent / 100) 20) area.width
  let height := min height area.height
  { x := area.x + (area.width - width) / 2
    y := area.y + (area.height - height) / 2
    width := width
    height := height }

/-- The cell in an area's row, no further right than its last one. -/
def cursorColumn (area : Rect) (column : Nat) : Nat :=
  min (min maxCell (area.x + min maxCell column)) (area.right - 1)

def withoutReturn (line : List Char) : List Char :=
  if line.getLast? = some '\r' then line.dropLast else line

/-- The lines of a text; a line feed at the end opens no line, and a carriage return before a line
feed belongs to the line end. -/
def displayLines (text : List Char) : List (List Char) :=
  let lines := textLines text
  let last := lines.getLastD []
  lines.dropLast.map withoutReturn ++ if last.isEmpty then [] else [last]

def Editor.frameStyle (focused : Bool) : Style :=
  { foreground := some (if focused then .cyan else .darkGray) }

/-- The first line in view once the cursor's line is. -/
def Editor.scrolled (e : Editor) (height : Nat) : Nat :=
  let row := min maxCell e.place.1
  if row < e.scroll then row
  else if 0 < height ∧ e.scroll + height ≤ row then row - height + 1
  else e.scroll

/-- Where the cursor is shown. -/
def Editor.cursorCell (e : Editor) (inner : Rect) : Nat × Nat :=
  let (row, column) := e.place
  (cursorColumn inner column, inner.y + (min maxCell row - e.scroll))

def Editor.draw (e : Editor) (s : Screen) (area : Rect) (focused : Bool) : Editor × Screen :=
  let s := s.drawFrame area (frameStyle focused) " Editor "
  let inner := area.inner
  let e := { e with scroll := e.scrolled inner.height }
  let s := if inner.isEmpty then s else s.fill inner { foreground := some .white }
  let s := s.drawLines inner e.scroll
    ((displayLines e.buffer).map fun line => [{ text := String.ofList line }])
  (e, if focused then { s with cursor := some (e.cursorCell inner) } else s)

def Marker.style : Marker → Style
  | .input => { foreground := some .cyan }
  | .result => { foreground := some .white }
  | .console .log => { foreground := some .gray }
  | .console .debug => { foreground := some .darkGray }
  | .console .info => { foreground := some .blue }
  | .console .warn => { foreground := some .yellow }
  | .console .error => { foreground := some .red }
  | .diagnostic .warning => { foreground := some .yellow, emphasis := .bold }
  | .diagnostic .error => { foreground := some .red, emphasis := .bold }
  | .notice => { foreground := some .darkGray, emphasis := .italic }

def TranscriptLine.runs (l : TranscriptLine) : List Run :=
  [⟨l.symbol, l.marker.style⟩, ⟨l.text, l.marker.style⟩]

def Transcript.draw (t : Transcript) (s : Screen) (area : Rect) : Screen :=
  let s := s.drawFrame area {} " Transcript "
  let inner := area.inner
  s.drawLines inner (t.top inner.height) (t.lines.map (·.runs))

def Dialog.draw (d : Dialog) (s : Screen) (area : Rect) : Screen :=
  let popup := centered area 60 5
  let s := (s.clear popup).drawFrame popup { foreground := some .yellow } " Input requested "
  let inner := popup.inner
  let s := s.drawLines inner 0 [
    [⟨d.prompt, { emphasis := .bold }⟩, ⟨d.input, {}⟩],
    [],
    [⟨"Enter: submit   Esc: abort", { foreground := some .darkGray }⟩]]
  { s with cursor := some (cursorColumn inner (d.prompt.length + d.input.length), inner.y) }

def App.helpText (a : App) : String :=
  if a.running then "  Ctrl-R/Esc:Abort | Ctrl-Q:Quit  "
  else "  Ctrl-R:Run | Ctrl-L:Clear | PgUp/PgDn:Scroll | Ctrl-Q:Quit  "

/-- The help stands at the right and the title takes what is left. -/
def App.drawTitleBar (a : App) (s : Screen) (area : Rect) : Screen :=
  let helpWidth := min a.helpText.utf8ByteSize area.width
  let titleArea := { area with width := area.width - helpWidth }
  let helpArea := { area with x := area.x + (area.width - helpWidth), width := helpWidth }
  let s := s.fill area { background := some .charcoal }
  let s := s.drawLines titleArea 0
    [[⟨s!"  {Product.name} Playground v{Product.version}  ",
      { foreground := some .yellow, emphasis := .bold }⟩]]
  s.drawLines helpArea 0 [[⟨a.helpText, { foreground := some .cyan }⟩]]

def App.drawStatusBar (a : App) (s : Screen) (area : Rect) : Screen :=
  let button : Run :=
    if a.running then
      ⟨" ■ Abort ", { foreground := some .black, background := some .red, emphasis := .bold }⟩
    else ⟨" ▶ Run ", { foreground := some .black, background := some .green, emphasis := .bold }⟩
  s.drawLines area 0 [[button, ⟨" ", {}⟩, ⟨a.status.text, { foreground := some .gray }⟩]]

/-- Draws everything; the editor remembers how far it is scrolled. -/
def App.render (a : App) (width height : Nat) : App × Screen :=
  let (titleArea, mainArea, statusArea) := verticalLayout width height
  let s := a.drawTitleBar (.blank width height) titleArea
  let (left, right) := halves mainArea
  let (editor, s) := a.editor.draw s left a.dialog.isNone
  let s := a.transcript.draw s right
  let s := a.drawStatusBar s statusArea
  let s := match a.dialog with
    | some dialog => dialog.draw s mainArea
    | none => s
  ({ a with editor := editor }, s)

end ScriptSession.Playground
