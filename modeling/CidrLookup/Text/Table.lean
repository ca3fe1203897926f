import CidrLookup.Text.Width

/-!
# Tables

A table with a frame of box-drawing characters: a heading, a double line below it, and rows with a
dotted line between them. A column is as wide as its widest line and a space on each side. A cell
with line breaks takes several lines, and a row takes as many lines as its tallest cell.
-/

namespace CidrLookup.Text

/-- A table: its heading, and rows with as many cells as the heading. -/
structure Table where
  heading : List String
  rows : List (List String)
deriving DecidableEq, Repr

namespace Table

/-! ## Lines across a table -/

/-- A line from the left edge to the right: how it begins, what it is made of, how it crosses a
column's border, how it ends. -/
structure Rule where
  left : Char
  line : Char
  crossing : Char
  right : Char

/-- The upper edge. -/
def top : Rule := ⟨'┌', '─', '┬', '┐'⟩

/-- The line below the heading. -/
def belowHeading : Rule := ⟨'╞', '═', '╪', '╡'⟩

/-- The line between two rows. -/
def betweenRows : Rule := ⟨'├', '╌', '┼', '┤'⟩

/-- The lower edge. -/
def bottom : Rule := ⟨'└', '─', '┴', '┘'⟩

/-- A line across columns of the given widths. -/
def Rule.draw (rule : Rule) (widths : List Nat) : List Char :=
  rule.left :: List.intercalate [rule.crossing]
    (widths.map fun width => List.replicate (width + 2) rule.line) ++ [rule.right]

/-! ## Cells and rows -/

/-- The lines of a cell. -/
def cellLines (cell : String) : List (List Char) :=
  cell.toList.splitOn '\n'

/-- A line of a cell with a space on each side, filled up to the width of its column. -/
def pad (width : Nat) (line : List Char) : List Char :=
  ' ' :: line ++ List.replicate (width - Text.width line) ' ' ++ [' ']

/-- One line of a row. -/
def drawLine (widths : List Nat) (cells : List (List Char)) : List Char :=
  '│' :: List.intercalate ['┆'] (List.zipWith pad widths cells) ++ ['│']

/-- The lines of a row; a cell that has fewer than the tallest one is blank below them. -/
def drawRow (widths : List Nat) (row : List String) : List (List Char) :=
  let cells := row.map cellLines
  let height := (cells.map List.length).foldl max 0
  (List.range height).map fun i => drawLine widths (cells.map fun lines => lines[i]?.getD [])

/-- The width that a cell asks for. -/
def cellWidth (cell : String) : Nat :=
  ((cellLines cell).map Text.width).foldl max 0

/-- The widths of the columns. -/
def widths (table : Table) : List Nat :=
  table.rows.foldl (fun widths row => List.zipWith max widths (row.map cellWidth))
    (table.heading.map cellWidth)

/-- The lines of a table. -/
def lines (table : Table) : List (List Char) :=
  let widths := table.widths
  let rows := List.intercalate [betweenRows.draw widths] (table.rows.map (drawRow widths))
  top.draw widths :: drawRow widths table.heading ++
    belowHeading.draw widths :: rows ++ [bottom.draw widths]

/-- A table as text, each line with a line end. -/
def draw (table : Table) : String :=
  .ofList (table.lines.flatMap (· ++ ['\n']))

end Table

end CidrLookup.Text
