import BoolQuery.Toml.Escape

/-!
# Quoted texts

A text is quoted in one of four forms: between single or triple quotation marks, with escapes, or
between single or triple apostrophes, as it stands. `Form.choose` picks the form that shows a text
with the fewest escapes, `write` writes it, and `read?` reads a quotation in any form from the
front of an input.

Triple marks span several lines. A line break directly behind the opening mark does not belong to
the text, and up to two quotes directly before the closing mark do.
-/

namespace BoolQuery.Toml.Quoted

/-- The four forms of quotation. -/
inductive Form where
  | basic | literal | basicLines | literalLines
deriving DecidableEq, Repr

namespace Form

/-- The character that quotes. -/
def quote : Form → Char
  | .basic | .basicLines => '"'
  | .literal | .literalLines => '\x27'

/-- Whether a form may hold line breaks. -/
def spansLines : Form → Bool
  | .basic | .literal => false
  | .basicLines | .literalLines => true

/-- Whether backslashes are escapes. -/
def hasEscapes : Form → Bool
  | .basic | .basicLines => true
  | .literal | .literalLines => false

/-- The mark that opens and closes a quotation. -/
def mark (form : Form) : Text :=
  List.replicate (if form.spansLines then 3 else 1) form.quote

/-- The length of the longest run of a character in a text that already follows `run` of them. -/
def longestRun (mark : Char) : (run : Nat) → Text → Nat
  | run, [] => run
  | run, c :: rest => if c == mark then longestRun mark (run + 1) rest
    else max run (longestRun mark 0 rest)

/-- The form in which a text is written. Control characters force escapes; otherwise the first form
that shows the text without escapes is taken, apart from tabs. -/
def choose (text : Text) : Form :=
  let manyLines := text.contains '\n'
  let plain := text.all fun c => isPlain c || c == '\n'
  if plain && !text.contains '\\' && !text.contains '"' && !manyLines then .basic
  else if plain && !text.contains '\x27' && !manyLines then .literal
  else if plain && !text.contains '\\' && longestRun '"' 0 text ≤ 2 then .basicLines
  else if plain && longestRun '\x27' 0 text ≤ 2 then .literalLines
  else if manyLines then .basicLines
  else .basic

/-- Write a text in a given form. Over several lines the text starts on a line of its own if it has
a line break. -/
def write (form : Form) (text : Text) : Text :=
  let opening := if form.spansLines && text.contains '\n' then ['\n'] else []
  let body := if form.hasEscapes then escape form.spansLines 0 text else text
  form.mark ++ opening ++ body ++ form.mark

end Form

/-- The quotation of a text. -/
def write (text : Text) : Text :=
  (Form.choose text).write text

/-- Split an input at a closing quote; where backslashes are escapes, the character behind one
never closes. -/
def splitAtQuote (form : Form) : (escaped : Bool) → Text → Option (Text × Text)
  | _, [] => none
  | escaped, c :: rest =>
    if !escaped && c == form.quote then some ([], rest)
    else
      let escapes := !escaped && form.hasEscapes && c == '\\'
      (splitAtQuote form escapes rest).map fun (body, after) => (c :: body, after)

/-- Split an input at a closing mark of three quotes, of which `run` have been read. The mark ends
before a character that is no quote, or at the fifth quote in a row. -/
def splitAtTriple (form : Form) : (escaped : Bool) → (run : Nat) → Text → Option (Text × Text)
  | _, run, [] => if 3 ≤ run then some (List.replicate (run - 3) form.quote, []) else none
  | escaped, run, c :: rest =>
    if !escaped && c == form.quote then
      if run == 4 then some (List.replicate 2 form.quote, rest)
      else splitAtTriple form false (run + 1) rest
    else if 3 ≤ run then some (List.replicate (run - 3) form.quote, c :: rest)
    else
      let escapes := !escaped && form.hasEscapes && c == '\\'
      (splitAtTriple form escapes 0 rest).map fun (body, after) =>
        (List.replicate run form.quote ++ c :: body, after)

/-- A text without a line break at its start. -/
def dropLineBreak : Text → Text
  | '\n' :: rest => rest
  | '\r' :: '\n' :: rest => rest
  | text => text

/-- Whether a body may stand as it is between apostrophes. -/
def isVerbatim (spansLines : Bool) : Text → Bool
  | [] => true
  | c :: rest =>
    (isPlain c || (spansLines && (c == '\n' || (c == '\r' && rest.head? == some '\n')))) &&
      isVerbatim spansLines rest

/-- Read the body of a quotation and its closing mark. -/
def readBody? (form : Form) (input : Text) : Option (Text × Text) := do
  let (body, after) ←
    if form.spansLines then splitAtTriple form false 0 input else splitAtQuote form false input
  let body := if form.spansLines then dropLineBreak body else body
  if form.hasEscapes then
    let text ← unescape form.spansLines .outside body
    return (text, after)
  else if isVerbatim form.spansLines body then return (body, after)
  else none

/-- The form of the quotation that an input starts with, and the input behind the opening mark. -/
def Form.ofInput? : Text → Option (Form × Text)
  | '"' :: '"' :: '"' :: rest => some (.basicLines, rest)
  | '"' :: rest => some (.basic, rest)
  | '\x27' :: '\x27' :: '\x27' :: rest => some (.literalLines, rest)
  | '\x27' :: rest => some (.literal, rest)
  | _ => none

/-- Read the quotation that an input starts with. -/
def read? (input : Text) : Option (Text × Text) := do
  let (form, rest) ← Form.ofInput? input
  readBody? form rest

end BoolQuery.Toml.Quoted
