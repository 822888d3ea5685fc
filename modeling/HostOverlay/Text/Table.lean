import HostOverlay.Text.Width

/-!
# Tables

A table is drawn with box characters: a border with rounded corners, a line below the header, one
blank on either side of each cell.  Every column is as wide as its widest line, the header included.
A cell may have several lines; its row is then as high as the highest of its cells.
-/

set_option autoImplicit false

namespace HostOverlay.Text.Table

/-- The lines of a cell; there is always at least one. -/
def cellLines (cell : String) : List String :=
  (cell.toList.splitOn '\n').map String.ofList

/-- The width of the widest line of a cell. -/
def cellWidth (cell : String) : Nat :=
  ((cellLines cell).map width).foldl max 0

/-- The widths of the columns: for each the width of its widest cell. -/
def columnWidths : List (List String) → List Nat
  | [] => []
  | row :: rest =>
    rest.foldl (fun widths r => List.zipWith max widths (r.map cellWidth)) (row.map cellWidth)

/-- The same character a number of times. -/
def repeated (n : Nat) (c : Char) : String :=
  String.ofList (List.replicate n c)

/-- A line of a cell, filled up to the width of its column. -/
def padded (columnWidth : Nat) (line : String) : String :=
  line ++ repeated (columnWidth - width line) ' '

/-- A horizontal line: its left end, its crossings and its right end. -/
def rule (left cross right : String) (widths : List Nat) : String :=
  left ++ String.intercalate cross (widths.map fun w => repeated (w + 2) '─') ++ right

/-- One line of a row, by the lines of its cells. -/
def textLine (widths : List Nat) (cells : List String) : String :=
  let shown := List.zipWith (fun w line => " " ++ padded w line ++ " ") widths cells
  "│" ++ String.intercalate "│" shown ++ "│"

/-- The lines of a row. -/
def rowLines (widths : List Nat) (row : List String) : List String :=
  let cells := row.map cellLines
  let height := (cells.map List.length).foldl max 0
  (List.range height).map fun i => textLine widths (cells.map fun lines => (lines[i]?).getD "")

/-- The lines of a table. -/
def lines (header : List String) (rows : List (List String)) : List String :=
  let widths := columnWidths (header :: rows)
  [rule "╭" "┬" "╮" widths] ++ rowLines widths header ++ [rule "├" "┼" "┤" widths]
    ++ rows.flatMap (rowLines widths) ++ [rule "╰" "┴" "╯" widths]

/-- A table as text. -/
def render (header : List String) (rows : List (List String)) : String :=
  String.intercalate "\n" (lines header rows)

end HostOverlay.Text.Table
