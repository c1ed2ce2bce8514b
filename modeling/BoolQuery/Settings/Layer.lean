import BoolQuery.Toml.Document

/-!
# Layers of settings

A settings file is one layer: it may leave any setting open for the layers below it. Keys and
tables that the program does not know are ignored, as long as their numbers can be represented.

The query settings stand in a table. They may also be given as an array, by position, where missing
elements leave settings open and surplus ones are ignored; and a date or time in their place leaves
all of them open.
-/

namespace BoolQuery

/-- The query settings of one file. -/
structure QueryLayer where
  /-- The name of the stemmer. -/
  stemmer : Option Text
  /-- Whether malformed queries are reported. -/
  strict : Option Bool
  /-- Whether operator keywords are accepted in either case. -/
  anyCase : Option Bool
deriving DecidableEq, Repr

/-- The settings of one file. -/
structure Layer where
  /-- Whether files in parent directories, and the global one, are out of play. -/
  isRoot : Option Bool
  query : Option QueryLayer
deriving DecidableEq, Repr

namespace Toml.Value

/-- The text that a value is. -/
def text? : Value → Option Text
  | .text body => some body
  | _ => none

/-- The truth value that a value is. -/
def boolean? : Value → Option Bool
  | .boolean truth => some truth
  | _ => none

end Toml.Value

namespace QueryLayer

/-- The layer that leaves every setting open. -/
def empty : QueryLayer := ⟨none, none, none⟩

/-- Read a setting that may be absent; a value of another kind is refused. -/
def readSetting? {α : Type} (kind : Toml.Value → Option α) :
    Option Toml.Value → Option (Option α)
  | none => some none
  | some value => (kind value).map some

/-- The key of the setting that names a stemmer. -/
def stemmerKey : Text := "stemmer"

/-- The key of the setting that asks for strict mode. -/
def strictKey : Text := "strict"

/-- The key of the setting that accepts keywords in either case. -/
def anyCaseKey : Text := "case_insensitive_operators"

/-- Read the query settings by name. -/
def ofTable? (table : Toml.Table) : Option QueryLayer := do
  let stemmer ← readSetting? Toml.Value.text? (table.get? stemmerKey)
  let strict ← readSetting? Toml.Value.boolean? (table.get? strictKey)
  let anyCase ← readSetting? Toml.Value.boolean? (table.get? anyCaseKey)
  if Toml.representableEntries table then return ⟨stemmer, strict, anyCase⟩ else none

/-- Read the query settings by position. -/
def ofElements? (elements : List Toml.Value) : Option QueryLayer := do
  let stemmer ← readSetting? Toml.Value.text? elements[0]?
  let strict ← readSetting? Toml.Value.boolean? elements[1]?
  let anyCase ← readSetting? Toml.Value.boolean? elements[2]?
  return ⟨stemmer, strict, anyCase⟩

/-- Read the query settings in any of their forms. -/
def ofValue? : Toml.Value → Option QueryLayer
  | .table _ entries => ofTable? entries
  | .array _ elements => ofElements? elements
  | .dateTime _ => some empty
  | .text _ | .boolean _ | .number _ => none

end QueryLayer

namespace Layer

/-- The key by which a file says that it is the last one. -/
def rootKey : Text := "root"

/-- The key of the table with the settings for queries. -/
def queryKey : Text := "query"

/-- Read the settings of a document. -/
def ofTable? (table : Toml.Table) : Option Layer := do
  let isRoot ← QueryLayer.readSetting? Toml.Value.boolean? (table.get? rootKey)
  let query ← QueryLayer.readSetting? QueryLayer.ofValue? (table.get? queryKey)
  let unknown := table.filter fun (name, _) => name != queryKey
  if Toml.representableEntries unknown then return ⟨isRoot, query⟩ else none

/-- Read the settings of a file from its text. -/
def read? (text : Text) : Option Layer := do
  ofTable? (← Toml.Document.read? text)

/-- Whether a layer says that it is the last one. -/
def endsSearch (layer : Layer) : Bool :=
  layer.isRoot == some true

end Layer
end BoolQuery
