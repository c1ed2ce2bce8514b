import BoolQuery.Text.Blank

/-!
# Segments of a query

A query is cut at single spaces once its parentheses are detached on the side that faces the term:
a space ends a segment and belongs to none, `(` ends the segment it belongs to, and `)` starts a
new one. Hence `a(` and `)b` stay whole, and two neighbouring spaces enclose an empty segment.
Every segment carries the byte offset of its start in the query.
-/

namespace BoolQuery

/-- A piece of a query with the byte offset at which it starts. -/
structure Segment where
  offset : Nat
  text : Text
deriving DecidableEq, Repr

namespace Segment

/-- Put a character in front of the first segment, which then starts at `offset`. -/
def extendFirst (offset : Nat) (c : Char) : List Segment → List Segment
  | [] => [⟨offset, [c]⟩]
  | segment :: segments => ⟨offset, c :: segment.text⟩ :: segments

/-- The segments of a text that starts at byte `offset` of the query. There is always a first one,
possibly empty. -/
def cut (offset : Nat) : Text → List Segment
  | [] => [⟨offset, []⟩]
  | c :: rest =>
    let later := cut (offset + c.utf8Size) rest
    if c = ' ' then ⟨offset, []⟩ :: later
    else if c = '(' then ⟨offset, [c]⟩ :: later
    else if c = ')' then ⟨offset, []⟩ :: extendFirst offset c later
    else extendFirst offset c later

/-- The segments of a query, blank characters at its ends aside. -/
def ofQuery (query : Text) : List Segment :=
  cut (Text.byteLength (query.takeWhile Text.isBlank)) (Text.trim query)

end Segment
end BoolQuery
