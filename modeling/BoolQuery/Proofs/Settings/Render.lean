import BoolQuery.Proofs.Toml.Statement
import BoolQuery.Settings.Discovery

/-!
# Written settings are read back

Settings are written as a document of four lines: the header of a table and one assignment for each
setting. `isLine_lines` says what these lines are read as, and `parseLayer_render` that reading
and merging them restores the settings, whatever characters the name of the stemmer holds.
-/

namespace BoolQuery

namespace QuerySettings

/-- The layer that defines every setting. -/
def toLayer (settings : QuerySettings) : QueryLayer :=
  ⟨some settings.stemmer, some settings.strict, some settings.anyCase⟩

/-- The table of written settings. -/
def toTable (settings : QuerySettings) : Toml.Table :=
  [(QueryLayer.stemmerKey, .text settings.stemmer),
    (QueryLayer.strictKey, .boolean settings.strict),
    (QueryLayer.anyCaseKey, .boolean settings.anyCase)]

/-- The lines of written settings. -/
def lines (settings : QuerySettings) : List Text :=
  ['[' :: (Layer.queryKey ++ [']']),
    QueryLayer.stemmerKey ++ " = ".toList ++ Toml.Quoted.write settings.stemmer,
    QueryLayer.strictKey ++ " = ".toList ++
      if settings.strict then "true".toList else "false".toList,
    QueryLayer.anyCaseKey ++ " = ".toList ++
      if settings.anyCase then "true".toList else "false".toList]

/-- What the lines of written settings say. -/
def statements (settings : QuerySettings) : List Toml.Statement :=
  .header (.table ⟨[], Layer.queryKey⟩) ::
    settings.toTable.map fun (name, value) => .assign ⟨[], name⟩ value

/-- Settings are written line by line. -/
theorem render_eq (settings : QuerySettings) :
    settings.render = settings.lines.flatMap Text.line := by
  simp [render, lines, Layer.queryKey]

/-- Each line is read as its statement. -/
theorem isLine_lines (settings : QuerySettings) :
    List.Forall₂ Toml.Statement.IsLine settings.lines settings.statements := by
  refine .cons ?header (.cons ?stemmer (.cons ?strict (.cons ?anyCase .nil)))
  case header => exact Toml.Statement.isLine_header (by decide) (by decide)
  case stemmer =>
    exact Toml.Statement.isLine_assign (by decide) (by decide)
      (Toml.Statement.isValue_quoted settings.stemmer)
  case strict =>
    exact Toml.Statement.isLine_assign (by decide) (by decide)
      (Toml.Statement.isValue_boolean settings.strict)
  case anyCase =>
    exact Toml.Statement.isLine_assign (by decide) (by decide)
      (Toml.Statement.isValue_boolean settings.anyCase)

/-- The statements describe one table. -/
theorem ofStatements?_statements (settings : QuerySettings) :
    Toml.Document.ofStatements? settings.statements =
      some [(Layer.queryKey, .table .header settings.toTable)] := by
  rfl

/-- The table of written settings is read as the layer that defines all of them. -/
theorem ofTable?_toTable (settings : QuerySettings) :
    Layer.ofTable? [(Layer.queryKey, .table .header settings.toTable)] =
      some ⟨none, some settings.toLayer⟩ := by
  rfl

/-- Written settings are read as the layer that defines every setting. -/
theorem read?_render (settings : QuerySettings) :
    Layer.read? settings.render = some ⟨none, some settings.toLayer⟩ := by
  have noMark : Toml.Document.dropByteOrderMark settings.render = settings.render := rfl
  have enough : 4 ≤ settings.render.length + 1 := by
    simp [render, Text.line]
  have read : Toml.Statement.readAll? (settings.render.length + 1) settings.render =
      some settings.statements := by
    rw [render_eq] at enough ⊢
    exact Toml.Statement.readAll?_lines settings.isLine_lines (List.cons_ne_nil _ _) enough
  rw [Layer.read?, Toml.Document.read?, noMark, read]
  simp only [Option.bind_eq_bind, Option.bind_some, ofStatements?_statements, ofTable?_toTable]

end QuerySettings

/-- Written settings are accepted as a settings file, which defines the stemmer and both switches as
they were and says nothing about ending the search. Merging this file alone restores the
settings. -/
theorem Settings.parseLayer_render (settings : Settings) (path : Path) :
    ∃ file, Settings.parseLayer path settings.query.render = .ok file ∧
      file.path = path ∧ file.layer.isRoot = none ∧
      file.layer.query = some ⟨some settings.query.stemmer, some settings.query.strict,
        some settings.query.anyCase⟩ ∧
      (Settings.merge [file]).query = settings.query := by
  refine ⟨⟨path, none, some settings.query.toLayer⟩, ?_, rfl, rfl, rfl, rfl⟩
  rw [Settings.parseLayer, QuerySettings.read?_render]

end BoolQuery
