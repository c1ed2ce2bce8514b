import BoolQuery.Text.CodePoint

/-!
# Escapes in quoted texts

Quoted texts of the settings format exist on one line and over several lines. Control characters
other than the tab never stand in them unescaped, line breaks only in the second kind. `escape`
writes a text so that both kinds of quotation are unambiguous and `unescape` reads it back. The
reader knows more escapes than the writer uses: `\e`, code points by two, four or eight hexadecimal
digits, and, over several lines, a backslash at the end of a line, which joins the line to the next
character that is not blank.
-/

namespace BoolQuery.Toml

/-- A character that may stand in comments and quoted texts: any but the control characters, of
which the tab alone is allowed. -/
def isPlain (c : Char) : Bool :=
  c == '\t' || (0x20 ≤ c.toNat && c.toNat ≠ 0x7F)

/-- The blanks within a line. -/
def isSpace (c : Char) : Bool :=
  c == ' ' || c == '\t'

/-- The character that a backslash and a letter stand for. -/
def simpleEscape? : Char → Option Char
  | 'b' => some '\x08'
  | 't' => some '\t'
  | 'n' => some '\n'
  | 'f' => some '\x0c'
  | 'r' => some '\r'
  | 'e' => some '\x1b'
  | '"' => some '"'
  | '\\' => some '\\'
  | _ => none

/-- The number of hexadecimal digits that follow a backslash and a letter. -/
def hexLength? : Char → Option Nat
  | 'x' => some 2
  | 'u' => some 4
  | 'U' => some 8
  | _ => none

/-- The place of a reader within an escape. -/
inductive EscapeState where
  /-- Not within an escape. -/
  | outside
  /-- Directly behind a backslash. -/
  | opened
  /-- Before the given number of hexadecimal digits, behind digits of the given value. -/
  | digits (missing value : Nat)
  /-- Among the blanks behind a backslash that joins two lines. -/
  | joining (lineEnded : Bool)
deriving DecidableEq, Repr

/-- The text that the body of a quotation stands for. The line break of a joined line, and
unescaped ones, are allowed only where the quotation may span several lines. -/
def unescape (spansLines : Bool) : EscapeState → Text → Option Text
  | .outside, [] => some []
  | .joining true, [] => some []
  | _, [] => none
  | .opened, c :: rest =>
    match simpleEscape? c, hexLength? c with
    | some meant, _ => (unescape spansLines .outside rest).map (meant :: ·)
    | none, some length => unescape spansLines (.digits length 0) rest
    | none, none =>
      if !spansLines then none
      else if c == '\n' then unescape spansLines (.joining true) rest
      else if isSpace c || (c == '\r' && rest.head? == some '\n') then
        unescape spansLines (.joining false) rest
      else none
  | .digits missing value, c :: rest =>
    match Text.hexValue? c with
    | none => none
    | some digit =>
      let value := 16 * value + digit
      if missing ≤ 1 then
        match Text.codePoint? value with
        | none => none
        | some meant => (unescape spansLines .outside rest).map (meant :: ·)
      else unescape spansLines (.digits (missing - 1) value) rest
  | .joining lineEnded, c :: rest =>
    if c == '\n' then unescape spansLines (.joining true) rest
    else if isSpace c || (c == '\r' && rest.head? == some '\n') then
      unescape spansLines (.joining lineEnded) rest
    else if !lineEnded then none
    else if c == '\\' then unescape spansLines .opened rest
    else if isPlain c then (unescape spansLines .outside rest).map (c :: ·)
    else none
  | .outside, c :: rest =>
    if c == '\\' then unescape spansLines .opened rest
    else if isPlain c ||
        (spansLines && (c == '\n' || (c == '\r' && rest.head? == some '\n'))) then
      (unescape spansLines .outside rest).map (c :: ·)
    else none

/-- The escape of a character, if it is always written as one. -/
def escapeOf? (c : Char) : Option Text :=
  match c with
  | '\x08' => some "\\b"
  | '\t' => some "\\t"
  | '\x0c' => some "\\f"
  | '\r' => some "\\r"
  | '\\' => some "\\\\"
  | _ =>
    if c != '\n' && !isPlain c then
      some ("\\u00".toList ++ (Text.hexPair c.toNat).map Char.toUpper)
    else none

/-- Write a text with escapes. On one line every quote and every line feed is escaped. Over several
lines a quote is escaped when it is the third in a row, counted from the last escape or other
character; `run` is the number of quotes in a row so far. -/
def escape (spansLines : Bool) : (run : Nat) → Text → Text
  | _, [] => []
  | run, c :: rest =>
    if c == '"' then
      if !spansLines || run == 2 then "\\\"".toList ++ escape spansLines 0 rest
      else c :: escape spansLines (run + 1) rest
    else if c == '\n' && !spansLines then "\\n".toList ++ escape spansLines 0 rest
    else match escapeOf? c with
      | some escaped => escaped ++ escape spansLines 0 rest
      | none => c :: escape spansLines 0 rest

end BoolQuery.Toml
