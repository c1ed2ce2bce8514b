import BoolQuery.Diagnostic
import BoolQuery.Json.Value
import BoolQuery.Table
import BoolQuery.Text.Quoted
import BoolQuery.Token

/-!
# Reports

How the results of commands are written: converted queries as lines or as one JSON document, and
tokens as a table.
-/

namespace BoolQuery

/-- A query and what became of it. -/
structure Answer where
  query : Text
  result : Except Diagnostic (List Text)

namespace Answer

/-- Whether the query was rejected. -/
def isRejected (answer : Answer) : Bool :=
  match answer.result with
  | .ok _ => false
  | .error _ => true

/-- The line with the elements of an accepted query. -/
def line (answer : Answer) : Text :=
  match answer.result with
  | .ok elements => Text.line (Text.joinWith [' '] elements)
  | .error _ => []

/-- The lines that say why a query was rejected. -/
def complaint (answer : Answer) : Text :=
  match answer.result with
  | .ok _ => []
  | .error diagnostic => Text.line diagnostic.render

/-- An answer as a JSON object: the query, and either its elements or what is wrong and where. -/
def toJson (answer : Answer) : Json.Value :=
  let query := ("query".toList, Json.Value.text answer.query)
  match answer.result with
  | .ok elements => .object [query, ("postfix".toList, .list (elements.map .text))]
  | .error diagnostic =>
    let position := match diagnostic.offset with
      | none => []
      | some offset => [("position".toList, Json.Value.number offset)]
    .object ([query, ("error".toList, .text diagnostic.defect.message)] ++ position)

/-- The JSON document with all answers. -/
def document (answers : List Answer) : Text :=
  Text.line (Json.Value.object [("queries".toList, .list (answers.map toJson))]).render

end Answer

namespace PlacedToken

/-- The cells that show a token: its offset, its kind and its text. -/
def cells (placed : PlacedToken) : List Text :=
  [Text.ofNat placed.offset, placed.token.kind, Text.Quoted.quote placed.token.text]

/-- The table that shows tokens. -/
def table (tokens : List PlacedToken) : Table :=
  ⟨["Offset", "Kind", "Text"], tokens.map cells⟩

end PlacedToken
end BoolQuery
