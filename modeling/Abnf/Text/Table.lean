import Abnf.Text.Columns
import Abnf.Text.Sheet

/-!
# Tables

How a sheet is printed where there is no terminal: without colours, and with every column as wide as
its widest line, as if it were shown in columns of fixed width.  There is a border around the whole
and a double line below the header, and nothing between columns but space.
-/

namespace Abnf.Text

/-- The lines of a cell. -/
def cellLines (cell : String) : List String := cell.splitOn "\n"

/-- Fills a text up with blanks to a number of columns. -/
def padTo (width : Nat) (text : String) : String :=
  text ++ String.ofList (List.replicate (width - columns text) ' ')

/-- The width of the column that a cell asks for. -/
def cellWidth (cell : String) : Nat := ((cellLines cell).map columns).foldl max 0

/-- The widths of the columns of some rows, each of which has the given number of cells. -/
def columnWidths (count : Nat) (rows : List (List String)) : List Nat :=
  (List.range count).map fun i =>
    (rows.map fun row => cellWidth (row.getD i "")).foldl max 0

/-- A horizontal line between two corners. -/
def ruleLine (left line right : String) (widths : List Nat) : String :=
  let parts := widths.map fun width => String.join (List.replicate (width + 2) line)
  left ++ line.intercalate parts ++ right

/-- The lines of a row. -/
def rowLines (widths : List Nat) (row : List String) : List String :=
  let cells := row.map cellLines
  let height := (cells.map List.length).foldl max 0
  (List.range height).map fun i =>
    let parts := List.zipWith
      (fun width lines => " " ++ padTo width (lines.getD i "") ++ " ") widths cells
    "│" ++ " ".intercalate parts ++ "│"

/-- The texts of the rows of a sheet. -/
def Sheet.texts (sheet : Sheet) : List (List String) :=
  sheet.rows.map fun row => row.map Cell.text

/-- The widths of the columns of a sheet. -/
def Sheet.widths (sheet : Sheet) : List Nat :=
  columnWidths sheet.header.length (sheet.header :: sheet.texts)

/-- The lines of the table of a sheet. -/
def tableLines (sheet : Sheet) : List String :=
  [ruleLine "┌" "─" "┐" sheet.widths] ++ rowLines sheet.widths sheet.header ++
    [ruleLine "╞" "═" "╡" sheet.widths] ++ sheet.texts.flatMap (rowLines sheet.widths) ++
    [ruleLine "└" "─" "┘" sheet.widths]

/-- The table of a sheet. -/
def table (sheet : Sheet) : String := "\n".intercalate (tableLines sheet)

end Abnf.Text
