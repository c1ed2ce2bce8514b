import BoolQuery.Postfix
import BoolQuery.Text.LowerCase

/-!
# Converters

A converter turns queries into postfix order with its own way of normalizing terms. Before a term
is normalized it is trimmed and lower-cased. In strict mode the first defect of a query is
reported; in lenient mode every query has a result.
-/

namespace BoolQuery

/-- How queries are tokenized and what happens to malformed ones. -/
structure ConvertOptions where
  /-- Report malformed queries instead of converting them as far as possible. -/
  strict : Bool
  /-- Accept operator keywords in either case. -/
  anyCase : Bool
deriving DecidableEq, Repr

/-- A way of converting queries. -/
structure Converter where
  /-- Maps a trimmed, lower-cased term to its normal form. -/
  normalize : Text → Text
  options : ConvertOptions

namespace Converter

/-- The element that a term of the query becomes. -/
def writeTerm (converter : Converter) (text : Text) : Text :=
  converter.normalize (Text.lower (Text.trim text))

/-- The tokens of a query. -/
def tokens (converter : Converter) (query : Text) : List PlacedToken :=
  Token.ofQuery converter.options.anyCase query

/-- The elements of a conversion. -/
def write (converter : Converter) (conversion : Conversion) : List Text :=
  conversion.write converter.writeTerm

/-- Convert tokens; in strict mode the first defect is the answer if there is one. -/
def convertTokens (converter : Converter) (strict : Bool) (tokens : List PlacedToken) :
    Except Diagnostic (List Text) :=
  let conversion := Conversion.ofTokens tokens
  match conversion.defects with
  | defect :: _ => if strict then .error defect else .ok (converter.write conversion)
  | [] => .ok (converter.write conversion)

/-- Convert a query, malformed or not. -/
def toPostfix (converter : Converter) (query : Text) : List Text :=
  converter.write (Conversion.ofTokens (converter.tokens query))

/-- Convert a query, or report its first defect together with the query. -/
def toPostfixStrict (converter : Converter) (query : Text) : Except Diagnostic (List Text) :=
  (converter.convertTokens true (converter.tokens query)).mapError (·.withQuery query)

/-- Convert a query in the mode that the options ask for. -/
def convert (converter : Converter) (query : Text) : Except Diagnostic (List Text) :=
  if converter.options.strict then converter.toPostfixStrict query
  else .ok (converter.toPostfix query)

end Converter
end BoolQuery
