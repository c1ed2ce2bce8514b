import BoolQuery.Toml.DateTime
import BoolQuery.Toml.Layout
import BoolQuery.Toml.Quoted
import BoolQuery.Toml.Value

/-!
# Statements

A document is a sequence of lines, each of which holds at most one statement: an assignment of a
value to a key, the header of a table, or the header of a table that is appended to an array. The
readers of this module take what they read from the front of an input and return the rest of it.
-/

namespace BoolQuery.Toml

/-- The header of a section: which table its assignments fill. -/
inductive Header where
  /-- The table with this key. -/
  | table (key : Key)
  /-- A new table at the end of the array with this key. -/
  | element (key : Key)
deriving DecidableEq, Repr

/-- What a line of a document says. -/
inductive Statement where
  | blank
  | assign (key : Key) (value : Value)
  | header (header : Header)
deriving Repr

namespace Key

/-- A character of a name without quotes. -/
def isBare (c : Char) : Bool :=
  c.isAlphanum || c == '_' || c == '-'

/-- Read one name, bare or quoted on one line. -/
def readName? (input : Text) : Option (Text × Text) :=
  match Quoted.Form.ofInput? input with
  | some (form, rest) => if form.spansLines then none else Quoted.readBody? form rest
  | none =>
    match input.takeWhile isBare with
    | [] => none
    | name => some (name, input.dropWhile isBare)

/-- Read the names of a key, between which dots stand. -/
def readNames? : (fuel : Nat) → Text → Option (List Text × Text)
  | 0, _ => none
  | fuel + 1, input => do
    let (name, rest) ← readName? (skipSpaces input)
    match skipSpaces rest with
    | '.' :: rest =>
      let (names, rest) ← readNames? fuel rest
      return (name :: names, rest)
    | rest => return ([name], rest)

/-- Read a key, with the blanks before and behind it. -/
def read? (input : Text) : Option (Key × Text) := do
  let (names, rest) ← readNames? (input.length + 1) input
  let name ← names.getLast?
  return (⟨names.dropLast, name⟩, rest)

end Key

namespace Value

/-- A character that a word can consist of: any but those that may follow a value. -/
def isWordPart (c : Char) : Bool :=
  !(isSpace c || c == '\n' || c == '\r' || c == '#' || c == ',' || c == ']' || c == '}')

/-- The value that a word denotes. -/
def ofWord? (word : Text) : Option Value :=
  if word == "true".toList then some (.boolean true)
  else if word == "false".toList then some (.boolean false)
  else match Number.ofWord? word with
    | some found => some (.number found)
    | none => if DateTime.isLiteral word then some (.dateTime word) else none

/-- Read a value without quotes and brackets. A date and a time of day separated by one space are
one word. -/
def readWord? (input : Text) : Option (Value × Text) :=
  let word := input.takeWhile isWordPart
  match input.dropWhile isWordPart with
  | ' ' :: c :: rest =>
    if DateTime.behindDate? word == some [] && c.isDigit then
      let time := (c :: rest).takeWhile isWordPart
      (ofWord? (word ++ ' ' :: time)).map fun value =>
        (value, (c :: rest).dropWhile isWordPart)
    else (ofWord? word).map fun value => (value, ' ' :: c :: rest)
  | rest => (ofWord? word).map fun value => (value, rest)

/-- Read a quoted text or a word. -/
def readScalar? (input : Text) : Option (Value × Text) :=
  match Quoted.Form.ofInput? input with
  | some (form, rest) =>
    (Quoted.readBody? form rest).map fun (body, after) => (.text body, after)
  | none => readWord? input

/-- Read items up to a closing bracket. Commas separate them, and one may stand behind the last;
lines may end anywhere between items, commas and brackets. -/
def readItems? {α : Type} (close : Char) (item : Text → Option (α × Text)) :
    (fuel : Nat) → Text → Option (List α × Text)
  | 0, _ => none
  | fuel + 1, input => do
    match ← skipLines? false input with
    | [] => none
    | c :: rest =>
      if c == close then return ([], rest)
      let (first, after) ← item (c :: rest)
      match ← skipLines? false after with
      | [] => none
      | c :: rest =>
        if c == close then return ([first], rest)
        else if c == ',' then
          let (others, rest) ← readItems? close item fuel rest
          return (first :: others, rest)
        else none

/-- Read a key, an equals sign and a value. -/
def readAssignment? (value : Text → Option (Value × Text)) (input : Text) :
    Option ((Key × Value) × Text) := do
  let (key, rest) ← Key.read? input
  match rest with
  | '=' :: rest =>
    let (assigned, rest) ← value (skipSpaces rest)
    return ((key, assigned), rest)
  | _ => none

/-- Read a value in which brackets and braces are nested at most `depth` deep. -/
def read? : (depth : Nat) → Text → Option (Value × Text)
  | 0, input => readScalar? input
  | depth + 1, input =>
    match input with
    | '[' :: rest =>
      (readItems? ']' (read? depth) input.length rest).map fun (elements, after) =>
        (.array false elements, after)
    | '{' :: rest => do
      let (assignments, after) ←
        readItems? '}' (readAssignment? (read? depth)) input.length rest
      let entries ← Table.assignAll [] assignments
      return (.table .braces entries, after)
    | _ => readScalar? input

/-- The greatest depth to which brackets and braces may be nested. -/
def maxDepth : Nat := 80

end Value

namespace Statement

/-- Read the statement at the start of a line, up to what may precede the end of the line. -/
def read? (input : Text) : Option (Statement × Text) :=
  match skipSpaces input with
  | [] => some (.blank, [])
  | '[' :: '[' :: rest => do
    let (key, rest) ← Key.read? rest
    match rest with
    | ']' :: ']' :: rest => return (.header (.element key), rest)
    | _ => none
  | '[' :: rest => do
    let (key, rest) ← Key.read? rest
    match rest with
    | ']' :: rest => return (.header (.table key), rest)
    | _ => none
  | c :: rest =>
    if c == '#' || c == '\n' || c == '\r' then some (.blank, c :: rest)
    else do
      let ((key, value), rest) ← Value.readAssignment? (Value.read? Value.maxDepth) (c :: rest)
      return (.assign key value, rest)

/-- Read the statements of all lines. -/
def readAll? : (fuel : Nat) → Text → Option (List Statement)
  | 0, _ => none
  | fuel + 1, input => do
    let (statement, rest) ← read? input
    let rest ← endLine? rest
    if rest.isEmpty then return [statement]
    let statements ← readAll? fuel rest
    return statement :: statements

end Statement
end BoolQuery.Toml
