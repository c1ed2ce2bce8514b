import BoolQuery.Toml.Escape

/-!
# Blanks, comments and line ends

What separates the words of a document. A line ends with a line feed, with or without a carriage
return before it, or with the document; a carriage return anywhere else is refused, and so is a
control character in a comment.
-/

namespace BoolQuery.Toml

/-- An input without the blanks at its start. -/
def skipSpaces (input : Text) : Text :=
  input.dropWhile isSpace

/-- The input behind the end of the current line, before which blanks and a comment may stand. -/
def endLine? (input : Text) : Option Text :=
  let input := skipSpaces input
  let input := if input.head? == some '#' then input.dropWhile isPlain else input
  match input with
  | [] => some []
  | '\n' :: rest => some rest
  | '\r' :: '\n' :: rest => some rest
  | _ => none

/-- An input without the blanks, comments and line ends at its start. -/
def skipLines? : (inComment : Bool) → Text → Option Text
  | _, [] => some []
  | _, '\n' :: rest => skipLines? false rest
  | _, '\r' :: '\n' :: rest => skipLines? false rest
  | true, c :: rest => if isPlain c then skipLines? true rest else none
  | false, c :: rest =>
    if isSpace c then skipLines? false rest
    else if c == '#' then skipLines? true rest
    else some (c :: rest)

end BoolQuery.Toml
