import BoolQuery.Text.Columns

/-!
# Tables

A table has a heading and rows, drawn with lines around the columns. Every column is as wide as its
widest cell; cells stand at the left with a space on either side.
-/

namespace BoolQuery

/-- A heading and rows of cells. Every row has as many cells as the heading. -/
structure Table where
  heading : List Text
  rows : List (List Text)
deriving DecidableEq, Repr

namespace Table

/-- The greater of the widths in each column. -/
def wider : List Nat → List Nat → List Nat
  | first :: others, second :: rest => max first second :: wider others rest
  | widths, [] => widths
  | [], widths => widths

/-- The width of every column. -/
def widths (table : Table) : List Nat :=
  (table.heading :: table.rows).foldr (fun row widths => wider (row.map Text.columns) widths) []

/-- A cell with blanks up to a width and one space on either side. -/
def pad (width : Nat) (cell : Text) : Text :=
  [' '] ++ cell ++ List.replicate (width - Text.columns cell) ' ' ++ [' ']

/-- A line of cells. -/
def rowLine (widths : List Nat) (row : List Text) : Text :=
  Text.line (['│'] ++ Text.joinWith ['┆'] (List.zipWith pad widths row) ++ ['│'])

/-- A line that is drawn across all columns, made of its ends, the stroke between them and the
crossings of columns. -/
def ruleLine (left stroke crossing right : Char) (widths : List Nat) : Text :=
  let strokes := widths.map fun width => List.replicate (width + 2) stroke
  Text.line ([left] ++ Text.joinWith [crossing] strokes ++ [right])

/-- The lines of a table. -/
def render (table : Table) : Text :=
  let widths := table.widths
  ruleLine '┌' '─' '┬' '┐' widths ++ rowLine widths table.heading ++
    ruleLine '╞' '═' '╪' '╡' widths ++ table.rows.flatMap (rowLine widths) ++
    ruleLine '└' '─' '┴' '┘' widths

end Table
end BoolQuery
