import BoolQuery.Table
import BoolQuery.Proofs.Text.Split
import BoolQuery.Proofs.Text.Trim

/-!
# Tables are read back

The cells of a row stand between the strokes that separate columns. Strokes within cells look the
same, so a row is read back only if no cell but the last has one: the reader cuts a row at as many
strokes as there are between its columns (`readCells?_barred`). A cell is told from the blanks
around it unless it starts or ends with blanks itself. The lines of a table hold nothing but its
cells and the characters it is drawn with (`mem_of_mem_lines`), hence lines are what it is cut into
at its line feeds if no cell holds one (`splitAtEach_render`).
-/

namespace BoolQuery

namespace Table

/-- A row as it is drawn, without the end of its line. -/
def barred (widths : List Nat) (row : List Text) : Text :=
  ['│'] ++ Text.joinWith ['┆'] (List.zipWith pad widths row) ++ ['│']

/-- A line across all columns, without its end. -/
def ruled (left stroke crossing right : Char) (widths : List Nat) : Text :=
  [left] ++ Text.joinWith [crossing] (widths.map fun width => List.replicate (width + 2) stroke) ++
    [right]

/-- The lines above the rows of a table. -/
def top (table : Table) : List Text :=
  [ruled '┌' '─' '┬' '┐' table.widths, barred table.widths table.heading,
    ruled '╞' '═' '╪' '╡' table.widths]

/-- The line below the rows of a table. -/
def bottom (table : Table) : Text :=
  ruled '└' '─' '┴' '┘' table.widths

/-- The lines of a table. -/
def lines (table : Table) : List Text :=
  table.top ++ table.rows.map (barred table.widths) ++ [table.bottom]

/-- A table is written line by line. -/
theorem render_eq_lines (table : Table) : table.render = table.lines.flatMap Text.line := by
  simp only [lines, top, bottom, List.flatMap_append, List.flatMap_map, List.flatMap_cons,
    List.flatMap_nil, List.append_nil, List.append_assoc]
  simp only [render, List.append_assoc]
  rfl

/-! ### Widths -/

/-- There are as many widths as the longer of two rows has. -/
theorem length_wider (first second : List Nat) :
    (wider first second).length = max first.length second.length := by
  induction first, second using wider.induct with
  | case1 width widths other others inductionHypothesis =>
      rw [wider, List.length_cons, inductionHypothesis, List.length_cons, List.length_cons]
      omega
  | case2 widths => simp [wider]
  | case3 widths filled =>
      rw [wider, List.length_nil, Nat.zero_max]
      exact filled

/-- There is a width for every cell of a row. -/
theorem length_le_length_widths {table : Table} {row : List Text}
    (member : row ∈ table.heading :: table.rows) : row.length ≤ table.widths.length := by
  unfold widths
  generalize table.heading :: table.rows = rows at member ⊢
  induction rows with
  | nil => cases member
  | cons first rows inductionHypothesis =>
      rw [List.foldr_cons, length_wider, List.length_map]
      rcases List.mem_cons.mp member with rfl | later
      · exact Nat.le_max_left _ _
      · exact Nat.le_trans (inductionHypothesis later) (Nat.le_max_right _ _)

/-! ### Cells -/

/-- The cells of a row of a table with so many columns. -/
def readCells? (columns : Nat) (row : Text) : Option (List Text) :=
  (Text.between? '│' '│' row).map fun inner =>
    let pieces := Text.splitAtEach '┆' inner
    let last := Text.joinWith ['┆'] (pieces.drop (columns - 1))
    (pieces.take (columns - 1) ++ [last]).map Text.trim

section Padding

variable {widths : List Nat} {width : Nat} {cell : Text} {row : List Text} {c : Char}

/-- Trimming removes the padding of a cell that has no blanks at its ends. -/
theorem trim_pad (width : Nat) (tight : Text.Tight cell) : Text.trim (pad width cell) = cell := by
  have blank : Text.isBlank ' ' = true := by decide
  have padded : pad width cell =
      [' '] ++ cell ++ (List.replicate (width - Text.columns cell) ' ' ++ [' ']) := by
    rw [pad, List.append_assoc]
  rw [padded]
  refine Text.trim_append tight _ _ (by simp [blank]) fun c member => ?_
  rcases List.mem_append.mp member with filler | last
  · rw [List.eq_of_mem_replicate filler]
    exact blank
  · rw [List.mem_singleton.mp last]
    exact blank

/-- Padding adds spaces only. -/
theorem mem_of_mem_pad (member : c ∈ pad width cell) (other : c ≠ ' ') : c ∈ cell := by
  simpa [pad, other] using member

/-- Every padded cell is a cell of the row. -/
theorem exists_of_mem_zipWith_pad {shown : Text} (member : shown ∈ List.zipWith pad widths row) :
    ∃ width, ∃ cell ∈ row, shown = pad width cell := by
  rw [← List.map_uncurry_zip_eq_zipWith] at member
  obtain ⟨⟨width, cell⟩, paired, rfl⟩ := List.mem_map.mp member
  exact ⟨width, cell, (List.of_mem_zip paired).2, rfl⟩

/-- Trimming takes the padding off again, as long as no column is missing. -/
theorem map_trim_zipWith_pad (enough : row.length ≤ widths.length)
    (tight : ∀ cell ∈ row, Text.Tight cell) :
    (List.zipWith pad widths row).map Text.trim = row := by
  induction row generalizing widths with
  | nil => simp
  | cons cell row inductionHypothesis =>
      cases widths with
      | nil => cases enough
      | cons width widths =>
          obtain ⟨cellTight, rowTight⟩ := List.forall_mem_cons.mp tight
          rw [List.zipWith_cons_cons, List.map_cons, trim_pad width cellTight,
            inductionHypothesis (Nat.le_of_succ_le_succ enough) rowTight]

/-- A row is read back if its cells have no blanks at their ends and all but the last are free of
the stroke between cells. -/
theorem readCells?_barred {front : List Text} {last : Text}
    (enough : front.length < widths.length) (plain : ∀ cell ∈ front, '┆' ∉ cell)
    (tight : ∀ cell ∈ front ++ [last], Text.Tight cell) :
    readCells? (front.length + 1) (barred widths (front ++ [last])) = some (front ++ [last]) := by
  have fits : (front ++ [last]).length ≤ widths.length := by
    rw [List.length_append]
    exact enough
  have trimmed := map_trim_zipWith_pad fits tight
  obtain ⟨before, width, after, rfl, same⟩ :
      ∃ before width after, widths = before ++ width :: after ∧ before.length = front.length :=
    ⟨widths.take front.length, widths[front.length], widths.drop (front.length + 1), by simp,
      List.length_take_of_le (Nat.le_of_lt enough)⟩
  have shown : List.zipWith pad (before ++ width :: after) (front ++ [last]) =
      List.zipWith pad before front ++ [pad width last] := by
    rw [List.zipWith_append same, List.zipWith_cons_cons, List.zipWith_nil_right]
  have noStroke : ∀ cell ∈ List.zipWith pad before front, '┆' ∉ cell := by
    intro cell member stroke
    obtain ⟨width, cell, inFront, rfl⟩ := exists_of_mem_zipWith_pad member
    exact plain cell inFront (mem_of_mem_pad stroke (by decide))
  have length : (List.zipWith pad before front).length = front.length := by
    rw [List.length_zipWith, same, Nat.min_self]
  rw [shown] at trimmed
  rw [readCells?, barred, Text.between?_append, Option.map_some, shown,
    Text.splitAtEach_joinWith_concat noStroke, Nat.add_sub_cancel]
  simp only [List.take_left' length, List.drop_left' length, Text.joinWith_splitAtEach, trimmed]

/-! ### Characters -/

/-- The characters that tables are drawn with. -/
def strokes : Text := " │┆┌─┬┐╞═╪╡└┴┘"

/-- A line across all columns is drawn with the strokes that it is given. -/
theorem mem_of_mem_ruled {left stroke crossing right : Char}
    (member : c ∈ ruled left stroke crossing right widths) :
    c ∈ [left, stroke, crossing, right] := by
  by_cases crosses : c = crossing
  · simp [crosses]
  · simp only [ruled, List.mem_append, List.mem_singleton, Text.mem_joinWith_iff crosses,
      List.mem_map] at member
    rcases member with (rfl | ⟨_, ⟨width, _, rfl⟩, drawn⟩) | rfl
    · simp
    · simp [List.eq_of_mem_replicate drawn]
    · simp

/-- A row holds the characters of its cells and strokes. -/
theorem mem_of_mem_barred (member : c ∈ barred widths row) :
    c ∈ strokes ∨ ∃ cell ∈ row, c ∈ cell := by
  by_cases drawn : c ∈ strokes
  · exact .inl drawn
  · have others : c ≠ '│' ∧ c ≠ '┆' ∧ c ≠ ' ' := by
      refine ⟨?_, ?_, ?_⟩
      all_goals
        rintro rfl
        exact drawn (by decide)
    simp only [barred, List.mem_append, List.mem_singleton, others.1, false_or, or_false,
      Text.mem_joinWith_iff others.2.1] at member
    obtain ⟨shown, isShown, within⟩ := member
    obtain ⟨width, cell, inRow, rfl⟩ := exists_of_mem_zipWith_pad isShown
    exact .inr ⟨cell, inRow, mem_of_mem_pad within others.2.2⟩

end Padding

/-- The lines of a table hold its cells and the characters it is drawn with. -/
theorem mem_of_mem_lines {table : Table} {line : Text} {c : Char} (listed : line ∈ table.lines)
    (member : c ∈ line) :
    c ∈ strokes ∨ ∃ row ∈ table.heading :: table.rows, ∃ cell ∈ row, c ∈ cell := by
  have ofRow {row : List Text} (isRow : row ∈ table.heading :: table.rows)
      (inRow : c ∈ barred table.widths row) :
      c ∈ strokes ∨ ∃ row ∈ table.heading :: table.rows, ∃ cell ∈ row, c ∈ cell :=
    (mem_of_mem_barred inRow).imp id fun found => ⟨row, isRow, found⟩
  have ofRule {left stroke crossing right : Char}
      (drawn : [left, stroke, crossing, right].all strokes.contains = true)
      (inRule : c ∈ ruled left stroke crossing right table.widths) : c ∈ strokes :=
    List.contains_iff_mem.mp (List.all_eq_true.mp drawn c (mem_of_mem_ruled inRule))
  simp only [lines, top, bottom, List.mem_append, List.mem_cons, List.not_mem_nil, or_false,
    List.mem_map] at listed
  rcases listed with ((rfl | rfl | rfl) | ⟨row, isRow, rfl⟩) | rfl
  · exact .inl (ofRule (by decide) member)
  · exact ofRow List.mem_cons_self member
  · exact .inl (ofRule (by decide) member)
  · exact ofRow (List.mem_cons_of_mem _ isRow) member
  · exact .inl (ofRule (by decide) member)

/-- Cutting a table at its line feeds gives its lines, followed by nothing, if no cell holds one. -/
theorem splitAtEach_render {table : Table}
    (noFeed : ∀ row ∈ table.heading :: table.rows, ∀ cell ∈ row, '\n' ∉ cell) :
    Text.splitAtEach '\n' table.render = table.lines ++ [[]] := by
  rw [render_eq_lines, Text.splitAtEach_lines_iff]
  intro line listed feed
  rcases mem_of_mem_lines listed feed with drawn | ⟨row, isRow, cell, inRow, within⟩
  · exact absurd drawn (by decide)
  · exact noFeed row isRow cell inRow within

end Table
end BoolQuery
