import BoolQuery.Text.Basic

/-!
# Diagnostics of malformed queries

A defect is one of three ways in which a query can be malformed. A diagnostic names a defect and,
where known, the byte offset of the offending parenthesis and the query. Its rendering shows the
query on a line of its own and a caret under the offending character. An offset beyond the end of
the query points behind its last character, and an offset inside a character points at that
character.
-/

namespace BoolQuery

/-- The ways in which a query can be malformed. -/
inductive Defect where
  /-- A closing parenthesis with no open group before it. -/
  | unmatchedClose
  /-- A group that is still open at the end of the query. -/
  | unmatchedOpen
  /-- A query without tokens. -/
  | emptyQuery
deriving DecidableEq, Repr

namespace Defect

/-- The message of a defect. -/
def message : Defect → Text
  | .unmatchedClose => "unexpected closing parenthesis"
  | .unmatchedOpen => "expected closing parenthesis"
  | .emptyQuery => "empty query"

/-- How the query can be mended, where there is something to say. -/
def hint? : Defect → Option Text
  | .unmatchedClose => some "Remove the ) or add a matching ( before it"
  | .unmatchedOpen => some "Add a closing parenthesis ) to match the opening one"
  | .emptyQuery => none

end Defect

/-- A defect with its place, where known. -/
structure Diagnostic where
  defect : Defect
  /-- The byte offset of the offending token. -/
  offset : Option Nat
  /-- The query that has the defect. -/
  query : Option Text
deriving DecidableEq, Repr

namespace Diagnostic

/-- The same diagnostic for a given query. -/
def withQuery (diagnostic : Diagnostic) (query : Text) : Diagnostic :=
  { diagnostic with query := some query }

/-- The number of characters of a text that lie entirely within its first `bytes` bytes. -/
def column : Text → (bytes : Nat) → Nat
  | [], _ => 0
  | c :: rest, bytes => if c.utf8Size ≤ bytes then column rest (bytes - c.utf8Size) + 1 else 0

/-- The line with the caret under the character at a byte offset. -/
def caretLine (query : Text) (offset : Nat) : Text :=
  Text.line ("  ".toList ++ List.replicate (column query offset) ' ' ++ ['^'])

/-- The lines that show the query and, if an offset is known, the place in it. -/
def context (diagnostic : Diagnostic) : Text :=
  match diagnostic.query with
  | none => []
  | some query =>
    Text.line ("  ".toList ++ query) ++
      match diagnostic.offset with
      | none => []
      | some offset => caretLine query offset

/-- The full text of a diagnostic. It ends without a line feed only when it has a hint. -/
def render (diagnostic : Diagnostic) : Text :=
  Text.line ("query syntax error: ".toList ++ diagnostic.defect.message) ++ diagnostic.context ++
    match diagnostic.defect.hint? with
    | none => []
    | some hint => "hint: ".toList ++ hint

end Diagnostic
end BoolQuery
