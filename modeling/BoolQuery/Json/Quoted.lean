import BoolQuery.Text.CodePoint

/-!
# Quoted texts in JSON

Within quotes, only the quote, the backslash and the characters below the space are escaped.
-/

namespace BoolQuery.Json

/-- The letter behind the backslash of a short escape. -/
def shortEscape? : Char → Option Char
  | '"' => some '"'
  | '\\' => some '\\'
  | '\x08' => some 'b'
  | '\x0c' => some 'f'
  | '\n' => some 'n'
  | '\r' => some 'r'
  | '\t' => some 't'
  | _ => none

/-- One character within quotes. -/
def encodeChar (c : Char) : Text :=
  match shortEscape? c with
  | some letter => ['\\', letter]
  | none => if c.toNat < 0x20 then "\\u00".toList ++ Text.hexPair c.toNat else [c]

/-- A text between quotes. -/
def quote (text : Text) : Text :=
  '"' :: text.flatMap encodeChar ++ ['"']

end BoolQuery.Json
