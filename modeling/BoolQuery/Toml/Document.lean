import BoolQuery.Toml.Statement

/-!
# Documents

A document is read in two steps: its text into statements, and the statements into the table that
they describe. A mark of byte order may stand before the text.
-/

namespace BoolQuery.Toml

/-- A header and the assignments that follow it. -/
structure Section where
  header : Header
  assignments : List (Key × Value)

namespace Document

/-- The assignments before the first header, and the sections of a document. -/
def sections : List Statement → List (Key × Value) × List Section
  | [] => ([], [])
  | .blank :: rest => sections rest
  | .assign key value :: rest =>
    let (assignments, later) := sections rest
    ((key, value) :: assignments, later)
  | .header header :: rest =>
    let (assignments, later) := sections rest
    ([], ⟨header, assignments⟩ :: later)

/-- Add a section to a table. -/
def addSection (table : Table) (part : Section) : Option Table :=
  match part.header with
  | .table key => table.fillTable key part.assignments
  | .element key => table.appendTable key part.assignments

/-- The table that statements describe. -/
def ofStatements? (statements : List Statement) : Option Table := do
  let (assignments, later) := sections statements
  later.foldlM addSection (← Table.assignAll [] assignments)

/-- The text of a document without a mark of byte order. -/
def dropByteOrderMark : Text → Text
  | '\ufeff' :: rest => rest
  | text => text

/-- The table that a text describes, or `none` if the text is no document. -/
def read? (text : Text) : Option Table := do
  let text := dropByteOrderMark text
  ofStatements? (← Statement.readAll? (text.length + 1) text)

end Document
end BoolQuery.Toml
