import BoolQuery.Json.Quoted

/-!
# JSON values

The JSON values that results consist of, and their form for readers: every element and every member
on a line of its own, indented by two spaces for every level, and empty lists without a line
break.
-/

namespace BoolQuery.Json

/-- A JSON value without truth values, fractions and null. -/
inductive Value where
  | text (text : Text)
  | number (value : Nat)
  | list (elements : List Value)
  | object (members : List (Text × Value))
deriving Repr

/-- A line break and the indentation of a level. -/
def newLine (level : Nat) : Text :=
  '\n' :: List.replicate (2 * level) ' '

mutual

/-- A value whose first line starts at the given level. -/
def Value.renderAt (level : Nat) : Value → Text
  | .text text => quote text
  | .number value => Text.ofNat value
  | .list [] => "[]"
  | .list (first :: rest) =>
    ['['] ++ newLine (level + 1) ++ first.renderAt (level + 1) ++
      renderElements (level + 1) rest ++ newLine level ++ [']']
  | .object [] => "\x7b\x7d"
  | .object ((name, first) :: rest) =>
    ['\x7b'] ++ newLine (level + 1) ++ quote name ++ ": ".toList ++ first.renderAt (level + 1) ++
      renderMembers (level + 1) rest ++ newLine level ++ ['\x7d']

/-- The elements of a list behind the first one. -/
def renderElements (level : Nat) : List Value → Text
  | [] => []
  | value :: rest =>
    [','] ++ newLine level ++ value.renderAt level ++ renderElements level rest

/-- The members of an object behind the first one. -/
def renderMembers (level : Nat) : List (Text × Value) → Text
  | [] => []
  | (name, value) :: rest =>
    [','] ++ newLine level ++ quote name ++ ": ".toList ++ value.renderAt level ++
      renderMembers level rest

end

/-- A value as a text of several lines. -/
def Value.render (value : Value) : Text :=
  value.renderAt 0

end BoolQuery.Json
