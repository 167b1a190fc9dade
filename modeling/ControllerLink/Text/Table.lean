/-
# Boxed tables

A table with a header row inside box-drawing lines.  Every column is as wide
as its widest line, a cell is padded with one space on either side, and a line
feed inside a cell starts a further line of the same row.
-/
import ControllerLink.Text.Width

set_option autoImplicit false

namespace ControllerLink.Text

/-- A header and the rows below it. -/
structure Table where
  header : List String
  rows : List (List String)

namespace Table

/-- The lines of one cell. -/
def cellLines (cell : String) : List String :=
  cell.splitOn "\n"

/-- The columns that a cell needs. -/
def cellWidth (cell : String) : Nat :=
  ((cellLines cell).map width).foldl max 0

/-- The width of every column: that of its widest cell. -/
def columnWidths (t : Table) : List Nat :=
  t.rows.foldl (fun widths row => List.zipWith max widths (row.map cellWidth))
    (t.header.map cellWidth)

/-- A horizontal line: its left end, filling, joint and right end. -/
def rule (left fill joint right : String) (widths : List Nat) : String :=
  left ++ joint.intercalate (widths.map fun n => String.join (List.replicate (n + 2) fill)) ++ right

/-- A piece of text padded to the width of its column. -/
def padded (columns : Nat) (text : String) : String :=
  " " ++ text ++ String.ofList (List.replicate (columns - width text) ' ') ++ " "

/-- The lines of one row. -/
def rowLines (widths : List Nat) (row : List String) : List String :=
  let cells := row.map cellLines
  let height := (cells.map List.length).foldl max 0
  (List.range height).map fun i =>
    "│" ++ "┆".intercalate (List.zipWith padded widths (cells.map fun c => c.getD i "")) ++ "│"

/-- The whole table, its lines joined by line feeds. -/
def render (t : Table) : String :=
  let widths := t.columnWidths
  let separator := rule "├" "╌" "┼" "┤" widths
  let body := List.intersperse [separator] (t.rows.map (rowLines widths))
  "\n".intercalate <|
    [rule "┌" "─" "┬" "┐" widths] ++ rowLines widths t.header ++
      [rule "╞" "═" "╪" "╡" widths] ++ body.flatten ++ [rule "└" "─" "┴" "┘" widths]

end Table

end ControllerLink.Text
