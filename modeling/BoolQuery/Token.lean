import BoolQuery.Operator
import BoolQuery.Segment

/-!
# Tokens of a query

A segment of a query is a parenthesis if it is exactly `(` or `)`, an operator if it is a keyword,
and a term otherwise. Empty segments are no tokens. A token keeps the byte offset of the segment it
was read from.
-/

namespace BoolQuery

/-- A token of the query language. -/
inductive Token where
  /-- An operator keyword. -/
  | operator (op : Operator)
  /-- A parenthesis that opens a group. -/
  | openParen
  /-- A parenthesis that closes a group. -/
  | closeParen
  /-- A search term, as written. -/
  | term (text : Text)
deriving DecidableEq, Repr

/-- A token with the byte offset at which it starts in the query. -/
structure PlacedToken where
  token : Token
  offset : Nat
deriving DecidableEq, Repr

namespace Token

/-- The text of a token; an operator is given by its canonical keyword. -/
def text : Token → Text
  | .operator op => op.symbol
  | .openParen => ['(']
  | .closeParen => [')']
  | .term text => text

/-- The kind of a token in a listing. -/
def kind : Token → Text
  | .operator _ => "operator"
  | .openParen | .closeParen => "group"
  | .term _ => "term"

/-- The token that a non-empty segment stands for. -/
def ofSegment (anyCase : Bool) (segment : Text) : Token :=
  if segment = ['('] then .openParen
  else if segment = [')'] then .closeParen
  else match Operator.ofKeyword? anyCase segment with
    | some op => .operator op
    | none => .term segment

/-- The tokens of a query in order, each with its offset. -/
def ofQuery (anyCase : Bool) (query : Text) : List PlacedToken :=
  ((Segment.ofQuery query).filter fun segment => !segment.text.isEmpty).map fun segment =>
    ⟨ofSegment anyCase segment.text, segment.offset⟩

end Token
end BoolQuery
