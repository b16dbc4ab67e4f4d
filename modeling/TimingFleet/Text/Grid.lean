import TimingFleet.Text.Style
import TimingFleet.Text.Width

/-!
# Grids with rounded corners

A grid is a list of rows of cells.  It is drawn with a frame, one blank on either side of a cell, text
at the left and at the top of its cell, and a line below the first row.  A cell may hold several lines.
A grid of one row ends with that line, and a grid without rows or without columns draws as nothing.
-/

namespace TimingFleet.Text

/-- Rows of cells, the heading first. -/
abbrev Grid := List (List String)

namespace Grid

/-- The lines of a cell, each with the style that it has there; the empty cell has one empty line. -/
def cellLines (cell : String) : List (List Char) := styledLines cell.toList

/-- The columns of the widest line of a cell. -/
def cellWidth (cell : String) : Nat := ((cellLines cell).map width).foldr max 0

/-- The number of cells in the longest row. -/
def columnCount (grid : Grid) : Nat := (grid.map List.length).foldr max 0

/-- The cell of a row in column `k`, empty past the row's end. -/
def cellAt (row : List String) (k : Nat) : String := row.getD k ""

/-- The width of column `k`. -/
def columnWidth (grid : Grid) (k : Nat) : Nat :=
  (grid.map fun row => cellWidth (cellAt row k)).foldr max 0

/-- The widths of all columns. -/
def columnWidths (grid : Grid) : List Nat :=
  (List.range grid.columnCount).map grid.columnWidth

/-- The number of text lines a row takes. -/
def rowHeight (columns : Nat) (row : List String) : Nat :=
  ((List.range columns).map fun k => (cellLines (cellAt row k)).length).foldr max 0

/-- A text followed by blanks up to `columns` columns. -/
def fill (columns : Nat) (text : List Char) : List Char :=
  text ++ List.replicate (columns - width text) ' '

/-- Text line `i` of a row. -/
def rowLine (widths : List Nat) (row : List String) (i : Nat) : List Char :=
  let cells := widths.mapIdx fun k w => fill w ((cellLines (cellAt row k)).getD i [])
  ['│', ' '] ++ join [' ', '│', ' '] cells ++ [' ', '│']

/-- A horizontal line with the given ends and crossing. -/
def rule (left crossing right : Char) (widths : List Nat) : List Char :=
  left :: join [crossing] (widths.map fun w => List.replicate (w + 2) '─') ++ [right]

/-- The text lines of a row. -/
def rowLines (widths : List Nat) (row : List String) : List (List Char) :=
  (List.range (rowHeight widths.length row)).map (rowLine widths row)

/-- The lines of the drawing, from the top frame to the bottom. -/
def drawLines (grid : Grid) : List (List Char) :=
  let widths := grid.columnWidths
  match grid with
  | [] => []
  | heading :: body =>
    if widths = [] then []
    else
      let top := rule '╭' '┬' '╮' widths :: rowLines widths heading ++ [rule '├' '┼' '┤' widths]
      if body = [] then top
      else top ++ body.flatMap (rowLines widths) ++ [rule '╰' '┴' '╯' widths]

/-- The drawing as one text. -/
def draw (grid : Grid) : String := String.ofList (join ['\n'] grid.drawLines)

end Grid

end TimingFleet.Text
