/-!
# Sheets

A sheet is what the program hands to a printer of tables: the cells in their rows, some of them
coloured, and what it asks for as to borders and widths.  How a sheet is printed depends on where it
is printed, and is left to the printer.
-/

namespace Abnf.Text

/-- The colours that a cell may have. -/
inductive CellColour where
  /-- Cyan. -/
  | cyan
  /-- Yellow. -/
  | yellow
deriving DecidableEq, Repr

/-- A cell of a sheet. -/
structure Cell where
  /-- The text of the cell, which may have several lines. -/
  text : String
  /-- The colour of the text, if it has one. -/
  colour : Option CellColour := none
deriving DecidableEq, Repr, Inhabited

/-- The borders of a sheet. -/
inductive Borders where
  /-- Lines of box-drawing characters around the whole and, doubled, below the header. -/
  | aroundAndBelowHeader
deriving DecidableEq, Repr, Inhabited

/-- How wide the columns of a sheet are. -/
inductive Arrangement where
  /-- As wide as their contents. -/
  | byContents
  /-- As wide as their contents, but no wider altogether than the terminal, if there is one. -/
  | byTerminal
deriving DecidableEq, Repr, Inhabited

/-- A sheet. -/
structure Sheet where
  /-- The borders. -/
  borders : Borders
  /-- How wide the columns are. -/
  arrangement : Arrangement
  /-- The texts of the header. -/
  header : List String
  /-- The rows. -/
  rows : List (List Cell)
deriving DecidableEq, Repr, Inhabited

end Abnf.Text
