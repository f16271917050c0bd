import ScriptSession.Text.Cluster
import ScriptSession.Text.Width

/-! Drawing on a grid of terminal cells. -/
namespace ScriptSession.Playground

inductive Color where
  | reset
  | black
  | red
  | green
  | yellow
  | blue
  | cyan
  | gray
  | darkGray
  | white
  /-- The background of the title bar. -/
  | charcoal
  deriving DecidableEq, Repr

def Color.name : Color → String
  | reset => "Reset"
  | black => "Black"
  | red => "Red"
  | green => "Green"
  | yellow => "Yellow"
  | blue => "Blue"
  | cyan => "Cyan"
  | gray => "Gray"
  | darkGray => "DarkGray"
  | white => "White"
  | charcoal => "#323232"

inductive Emphasis where
  | plain
  | bold
  | italic
  deriving DecidableEq, Repr

def Emphasis.name : Emphasis → String
  | plain => "NONE"
  | bold => "BOLD"
  | italic => "ITALIC"

/-- What drawing changes about a cell's look; what is not given stays. -/
structure Style where
  foreground : Option Color := none
  background : Option Color := none
  emphasis : Emphasis := .plain
  deriving DecidableEq, Repr

structure Cell where
  symbol : String := " "
  foreground : Color := .reset
  background : Color := .reset
  emphasis : Emphasis := .plain
  deriving DecidableEq, Repr

def Cell.styled (c : Cell) (s : Style) : Cell :=
  { c with
    foreground := s.foreground.getD c.foreground
    background := s.background.getD c.background
    emphasis := if s.emphasis = .plain then c.emphasis else s.emphasis }

/-- How many cells behind its own a symbol keeps from being drawn. Terminals do not clear them
behind a symbol with a selector for the look of a picture, so there they are drawn after all. -/
def Cell.covers (c : Cell) : Nat :=
  let symbol := c.symbol.toList
  if symbol.contains '\ufe0f' then 0 else Text.clusterWidth symbol - 1

structure Rect where
  x : Nat
  y : Nat
  width : Nat
  height : Nat
  deriving DecidableEq, Repr

namespace Rect

def right (r : Rect) : Nat := r.x + r.width

def bottom (r : Rect) : Nat := r.y + r.height

def isEmpty (r : Rect) : Bool := r.width = 0 || r.height = 0

/-- What a border leaves; it starts inside the area even where nothing is left. -/
def inner (r : Rect) : Rect where
  x := min (r.x + 1) r.right
  y := min (r.y + 1) r.bottom
  width := r.width - 2
  height := r.height - 2

end Rect

/-- A stretch of text in one style. -/
structure Run where
  text : String
  style : Style := {}

/-- The cells stand row by row. -/
structure Screen where
  width : Nat
  height : Nat
  cells : Array Cell
  cursor : Option (Nat × Nat) := none

namespace Screen

def blank (width height : Nat) : Screen where
  width := width
  height := height
  cells := Array.replicate (width * height) {}

def update (s : Screen) (x y : Nat) (f : Cell → Cell) : Screen :=
  if x < s.width then { s with cells := s.cells.modify (y * s.width + x) f } else s

def updateRow (s : Screen) (x y width : Nat) (f : Cell → Cell) : Screen :=
  (List.range width).foldl (fun s i => s.update (x + i) y f) s

def updateColumn (s : Screen) (x y height : Nat) (f : Cell → Cell) : Screen :=
  (List.range height).foldl (fun s i => s.update x (y + i) f) s

def updateArea (s : Screen) (area : Rect) (f : Cell → Cell) : Screen :=
  (List.range area.height).foldl (fun s i => s.updateRow area.x (area.y + i) area.width f) s

def fill (s : Screen) (area : Rect) (style : Style) : Screen :=
  s.updateArea area (·.styled style)

def clear (s : Screen) (area : Rect) : Screen := s.updateArea area fun _ => {}

def put (s : Screen) (x y : Nat) (symbol : String) (style : Style) : Screen :=
  s.update x y fun c => { c with symbol := symbol }.styled style

/-- The clusters of a line with their widths; controls are not shown. -/
def glyphs (runs : List Run) : List (List Char × Nat × Style) :=
  runs.flatMap fun run =>
    (Text.clusters run.text.toList).filterMap fun cluster =>
      if cluster.any fun c => c.toNat < 0x20 || (0x7F ≤ c.toNat && c.toNat < 0xA0) then none
      else some (cluster, Text.clusterWidth cluster, run.style)

/-- What fits into so many cells from the left, without anything wider than all of them. -/
def fitting (width used : Nat) : List (List Char × Nat × Style) → List (List Char × Nat × Style)
  | [] => []
  | (cluster, w, style) :: rest =>
    if width < w then fitting width used rest
    else if width < used + w then []
    else (cluster, w, style) :: fitting width (used + w) rest

/-- Puts a cluster that takes `width` cells; those behind the first one lose what they held. -/
def putCluster (s : Screen) (x y width : Nat) (cluster : List Char) (style : Style) : Screen :=
  (s.put x y (String.ofList cluster) style).updateRow (x + 1) y (width - 1) fun _ => {}

/-- Draws one line; what takes no cell is left out. -/
def drawLine (s : Screen) (x y width : Nat) (runs : List Run) : Screen :=
  ((fitting width 0 (glyphs runs)).foldl (fun (s, x) (cluster, w, style) =>
    if w = 0 then (s, x) else (s.putCluster x y w cluster style, x + w)) (s, x)).1

/-- Draws lines from `top` on, as many as fit. -/
def drawLines (s : Screen) (area : Rect) (top : Nat) (lines : List (List Run)) : Screen :=
  if area.isEmpty then s
  else
    ((lines.drop top).take area.height).zipIdx.foldl (fun s (runs, i) =>
      s.drawLine area.x (area.y + i) area.width runs) s

/-- A plain border with a title behind its upper left corner. -/
def drawFrame (s : Screen) (area : Rect) (style : Style) (title : String) : Screen :=
  if area.isEmpty then s
  else
    let side (symbol : String) (c : Cell) : Cell := { c with symbol := symbol }.styled style
    let s := s.updateColumn area.x area.y area.height (side "│")
    let s := s.updateRow area.x area.y area.width (side "─")
    let s := s.updateColumn (area.right - 1) area.y area.height (side "│")
    let s := s.updateRow area.x (area.bottom - 1) area.width (side "─")
    let s := s.put (area.right - 1) (area.bottom - 1) "┘" style
    let s := s.put (area.right - 1) area.y "┐" style
    let s := s.put area.x (area.bottom - 1) "└" style
    let s := s.put area.x area.y "┌" style
    s.drawLine (area.x + 1) area.y (area.width - 2) [{ text := title }]

/-- The cells as they reach the terminal: those that a wide symbol covers are not drawn. -/
def shown (s : Screen) : Array Cell :=
  (s.cells.foldl (fun (cells, covered) cell =>
    if 0 < covered then (cells.push {}, covered - 1) else (cells.push cell, cell.covers))
    (#[], 0)).1

/-- The shown cells row by row; there is no row without columns. -/
def rows (s : Screen) : List (List Cell) :=
  if s.width = 0 then []
  else
    let cells := s.shown
    (List.range s.height).map fun y => (cells.extract (y * s.width) ((y + 1) * s.width)).toList

end Screen

end ScriptSession.Playground
