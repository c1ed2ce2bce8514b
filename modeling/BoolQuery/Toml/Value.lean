import BoolQuery.Toml.Number

/-!
# Values and tables

A table maps names to values. Every table remembers how it came to be, because that decides what
later statements may add to it, and every array whether it was made by table headers.
-/

namespace BoolQuery.Toml

/-- How a table came to be. -/
inductive Origin where
  /-- By a header of its own. -/
  | header
  /-- On the way to a table with a header of its own. -/
  | passed
  /-- By a dotted key of an assignment. -/
  | dotted
  /-- Between braces. -/
  | braces
deriving DecidableEq, Repr

/-- A value of a settings document. -/
inductive Value where
  | text (text : Text)
  | boolean (value : Bool)
  | number (value : Number)
  /-- A date, a time of day or both, as written. -/
  | dateTime (literal : Text)
  /-- An array; `growing` if headers may append tables to it. -/
  | array (growing : Bool) (elements : List Value)
  | table (origin : Origin) (entries : List (Text × Value))
deriving Repr

/-- The entries of a table, in the order in which their names appeared. -/
abbrev Table := List (Text × Value)

mutual

/-- Whether all numbers in a value can be represented. -/
def Value.isRepresentable : Value → Bool
  | .number value => value.isRepresentable
  | .array _ elements => representableElements elements
  | .table _ entries => representableEntries entries
  | .text _ | .boolean _ | .dateTime _ => true

/-- Whether all numbers in a list of values can be represented. -/
def representableElements : List Value → Bool
  | [] => true
  | value :: rest => value.isRepresentable && representableElements rest

/-- Whether all numbers in the entries of a table can be represented. -/
def representableEntries : List (Text × Value) → Bool
  | [] => true
  | (_, value) :: rest => value.isRepresentable && representableEntries rest

end

/-- The name of a value: the tables that lead to it, and its name in the last of them. -/
structure Key where
  path : List Text
  name : Text
deriving DecidableEq, Repr

namespace Table

/-- The value with a given name. -/
def get? (table : Table) (name : Text) : Option Value :=
  table.lookup name

/-- Replace the value with a given name, or add one, by what `change` makes of the present value.
New names come last. -/
def update (name : Text) (change : Option Value → Option Value) : Table → Option Table
  | [] => (change none).map fun value => [(name, value)]
  | (other, value) :: rest =>
    if other == name then (change (some value)).map fun changed => (other, changed) :: rest
    else (update name change rest).map ((other, value) :: ·)

/-- Add a value under a name that is not yet taken. -/
def add (name : Text) (value : Value) : Table → Option Table :=
  update name fun
    | none => some value
    | some _ => none

/-- Change the table at the end of a path. Tables that are missing on the way are made. A path
leads through tables, though not those between braces, and through the last table of a growing
array; a dotted key does not lead through tables with a header of their own. -/
def change (dotted : Bool) (act : Origin → Table → Option Table) :
    (path : List Text) → Origin → Table → Option Table
  | [], origin, table => act origin table
  | name :: path, _, table =>
    table.update name fun
      | none =>
        let origin := if dotted then .dotted else .passed
        (change dotted act path origin []).map (.table origin)
      | some (.table origin entries) =>
        if origin == .braces || (dotted && origin == .header) then none
        else (change dotted act path origin entries).map (.table origin)
      | some (.array true elements) =>
        match elements.getLast? with
        | some (.table origin entries) =>
          (change dotted act path origin entries).map fun changed =>
            .array true (elements.dropLast ++ [.table origin changed])
        | _ => none
      | some _ => none

/-- Assign a value to a key. A dotted key reaches only tables made by dotted keys. -/
def assign (table : Table) (key : Key) (value : Value) : Option Table :=
  table.change true
    (fun origin reached =>
      if (origin == .dotted) == key.path.isEmpty then none else reached.add key.name value)
    key.path .header

/-- Assign values to keys in order. -/
def assignAll (table : Table) (assignments : List (Key × Value)) : Option Table :=
  assignments.foldlM (fun table (key, value) => table.assign key value) table

/-- Open a table with a header of its own and fill it. Only a table that so far was passed on the
way to others can be opened. -/
def fillTable (table : Table) (key : Key) (assignments : List (Key × Value)) : Option Table :=
  table.change false
    (fun _ reached => reached.update key.name fun
      | none => (assignAll [] assignments).map (.table .header)
      | some (.table .passed entries) => (assignAll entries assignments).map (.table .header)
      | some _ => none)
    key.path .header

/-- Append a table to a growing array and fill it. -/
def appendTable (table : Table) (key : Key) (assignments : List (Key × Value)) : Option Table :=
  table.change false
    (fun _ reached => reached.update key.name fun
      | none => (assignAll [] assignments).map fun entries => .array true [.table .header entries]
      | some (.array true elements) => (assignAll [] assignments).map fun entries =>
          .array true (elements ++ [.table .header entries])
      | some _ => none)
    key.path .header

end Table
end BoolQuery.Toml
