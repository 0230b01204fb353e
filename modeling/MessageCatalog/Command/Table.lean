/-
Tables for a terminal.

A table has a frame and a rule below its headers. Each column is as wide
as its widest cell, with a blank on both sides, and one more blank
stands between two columns. A cell of several lines makes its row
higher.
-/
import MessageCatalog.Text.Measure
import MessageCatalog.Text.Split
import MessageCatalog.Text.Width

namespace MessageCatalog.Command

/-- A table: a header for each column, and rows with a cell for each. -/
structure Table where
  headers : List String
  rows : List (List String)

namespace Table

/-- Some copies of a character. -/
def repeated (c : Char) (count : Nat) : String := String.ofList (List.replicate count c)

/-- The lines of a cell. -/
def cellLines (cell : String) : List String := Text.split '\n' cell

/-- The width of a cell. -/
def cellWidth (cell : String) : Nat := ((cellLines cell).map Text.width).foldl max 0

/-- The greater of each two widths. -/
def widest (widths : List Nat) (cells : List String) : List Nat :=
  List.zipWith (fun w cell => max w (cellWidth cell)) widths cells

/-- The widths of the columns without their blanks. -/
def widths (t : Table) : List Nat := t.rows.foldl widest (t.headers.map cellWidth)

/-- A text at the left of its column. -/
def padded (width : Nat) (s : String) : String :=
  " " ++ s ++ repeated ' ' (width - Text.width s) ++ " "

/-- One line of the table from the texts in its columns. -/
def line (widths : List Nat) (texts : List String) : String :=
  "│" ++ " ".intercalate (List.zipWith padded widths texts) ++ "│"

/-- The lines of a row, as many as its highest cell has. -/
def rowLines (widths : List Nat) (cells : List String) : List String :=
  let columns := cells.map cellLines
  let height := (columns.map List.length).foldl max 0
  (List.range height).map fun i => line widths (columns.map fun ls => ls.getD i "")

/-- A horizontal rule between two ends. -/
def rule (left middle right : Char) (widths : List Nat) : String :=
  repeated left 1 ++ repeated middle (Text.total (· + 3) widths - 1) ++ repeated right 1

/-- The lines of the whole table. -/
def lines (t : Table) : List String :=
  let ws := t.widths
  [rule '┌' '─' '┐' ws] ++ rowLines ws t.headers ++ [rule '╞' '═' '╡' ws]
    ++ t.rows.flatMap (rowLines ws) ++ [rule '└' '─' '┘' ws]

end Table

end MessageCatalog.Command
