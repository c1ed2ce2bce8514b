import BoolQuery.Text.CodePoint
import BoolQuery.Text.GraphemeExtend
import BoolQuery.Text.Printable

/-!
# Quoted texts

A quoted text can be read on a terminal whatever it holds: between quotes, with an escape in place
of every quote, backslash, character that cannot be shown, and character that would attach to the
one before it. `decode` undoes `encode`.
-/

namespace BoolQuery.Text.Quoted

/-- The character behind the backslash of a short escape. -/
def shortEscape? : Char → Option Char
  | '\x00' => some '0'
  | '\t' => some 't'
  | '\n' => some 'n'
  | '\r' => some 'r'
  | '"' => some '"'
  | '\\' => some '\\'
  | _ => none

/-- The character that a short escape stands for. -/
def shortMeaning? : Char → Option Char
  | '0' => some '\x00'
  | 't' => some '\t'
  | 'n' => some '\n'
  | 'r' => some '\r'
  | '"' => some '"'
  | '\x27' => some '\x27'
  | '\\' => some '\\'
  | _ => none

/-- One character within quotes. -/
def encodeChar (c : Char) : Text :=
  match shortEscape? c with
  | some letter => ['\\', letter]
  | none =>
    if isGraphemeExtend c || !isPrintable c then
      ['\\', 'u', '\x7b'] ++ hexDigits c.toNat ++ ['\x7d']
    else [c]

/-- The characters of a text within quotes. -/
def encode (text : Text) : Text :=
  text.flatMap encodeChar

/-- A text between quotes. -/
def quote (text : Text) : Text :=
  '"' :: encode text ++ ['"']

/-- A text between quotes, with apostrophes escaped as well. -/
def quoteStrictly (text : Text) : Text :=
  '"' :: (text.flatMap fun c => if c == '\x27' then ['\\', c] else encodeChar c) ++ ['"']

/-- The place of a reader within an escape. -/
inductive State where
  | outside
  /-- Behind a backslash. -/
  | opened
  /-- Behind the letter of a numeric escape. -/
  | numeric
  /-- Among the digits of a numeric escape, of which those so far have the given value. -/
  | digits (value : Nat)
deriving DecidableEq, Repr

/-- The text that the characters within quotes stand for. -/
def decode : State → Text → Option Text
  | .outside, [] => some []
  | _, [] => none
  | .outside, c :: rest =>
    if c == '\\' then decode .opened rest
    else if c == '"' then none
    else (decode .outside rest).map (c :: ·)
  | .opened, c :: rest =>
    match shortMeaning? c with
    | some meant => (decode .outside rest).map (meant :: ·)
    | none => if c == 'u' then decode .numeric rest else none
  | .numeric, c :: rest => if c == '\x7b' then decode (.digits 0) rest else none
  | .digits value, c :: rest =>
    if c == '\x7d' then
      match codePoint? value with
      | none => none
      | some meant => (decode .outside rest).map (meant :: ·)
    else
      match hexValue? c with
      | none => none
      | some digit => decode (.digits (16 * value + digit)) rest

end BoolQuery.Text.Quoted
