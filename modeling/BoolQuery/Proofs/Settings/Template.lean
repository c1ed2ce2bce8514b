import BoolQuery.Proofs.Toml.Statement
import BoolQuery.Settings.Layer
import BoolQuery.Settings.Template

/-!
# New settings files say nothing

A template is written with every line turned into a comment. A document of comments and empty lines
describes the empty table, whatever the lines say, so a new settings file leaves every setting open
(`read?_localText`, `read?_globalText`).
-/

namespace BoolQuery

namespace Toml

/-- An empty line or a comment. -/
structure IsRemark (line : Text) : Prop where
  mark : ∀ c, line.head? = some c → c = '#'
  readable : ∀ c ∈ line, isPlain c = true

/-- A remark is read as a blank line. -/
theorem IsRemark.isLine {line : Text} (remark : IsRemark line) :
    Statement.IsLine line .blank := by
  intro rest
  cases line with
  | nil => exact ⟨'\n' :: rest, rfl, Statement.endLine?_lineFeed rest⟩
  | cons c body =>
      obtain rfl := remark.mark c rfl
      refine ⟨'#' :: (body ++ '\n' :: rest), rfl, ?_⟩
      have dropped : ('#' :: (body ++ '\n' :: rest)).dropWhile isPlain = '\n' :: rest := by
        rw [← List.cons_append, List.dropWhile_append_of_pos remark.readable]
        rfl
      have marked : skipSpaces ('#' :: (body ++ '\n' :: rest)) =
          '#' :: (body ++ '\n' :: rest) := rfl
      simp only [endLine?, marked, List.head?_cons, beq_self_eq_true, if_true, dropped]

/-- Every line takes at least one character. -/
theorem length_le_length_flatMap_line (lines : List Text) :
    lines.length ≤ (lines.flatMap Text.line).length := by
  induction lines with
  | nil => exact Nat.le_refl 0
  | cons line lines inductionHypothesis =>
      simp only [List.flatMap_cons, List.length_append, List.length_cons, Text.line]
      omega

/-- Remarks describe the empty table. -/
theorem read?_remarks {lines : List Text} (remarks : ∀ line ∈ lines, IsRemark line)
    (filled : lines ≠ []) : Document.read? (lines.flatMap Text.line) = some [] := by
  have areLines : List.Forall₂ Statement.IsLine lines (lines.map fun _ => .blank) := by
    rw [List.forall₂_map_right_iff, List.forall₂_same]
    exact fun line member => (remarks line member).isLine
  have noMark : Document.dropByteOrderMark (lines.flatMap Text.line) = lines.flatMap Text.line := by
    obtain ⟨line, rest, rfl⟩ := List.exists_cons_of_ne_nil filled
    cases line with
    | nil => rfl
    | cons c body =>
        obtain rfl := (remarks _ List.mem_cons_self).mark c rfl
        rfl
  have enough : lines.length ≤ (lines.flatMap Text.line).length + 1 :=
    Nat.le_succ_of_le (length_le_length_flatMap_line lines)
  have nothing : ∀ lines : List Text,
      Document.sections (lines.map fun _ => .blank) = ([], []) := by
    intro lines
    induction lines with
    | nil => rfl
    | cons line lines inductionHypothesis => exact inductionHypothesis
  simp only [Document.read?, noMark, Statement.readAll?_lines areLines filled enough,
    Option.bind_eq_bind, Option.bind_some, Document.ofStatements?, nothing]
  rfl

end Toml

namespace Template

/-- A readable line is written as a remark. -/
theorem isRemark_commentOut {line : Text} (readable : ∀ c ∈ line, Toml.isPlain c = true) :
    Toml.IsRemark (commentOut line) := by
  unfold commentOut
  split
  · next remark =>
      refine ⟨fun c first => ?_, readable⟩
      cases line with
      | nil => cases first
      | cons d body => simp_all
  · refine ⟨fun c first => by simpa [eq_comm] using first, fun c member => ?_⟩
    rcases List.mem_append.mp member with mark | kept
    · have plain : "# ".toList.all Toml.isPlain = true := by decide
      exact List.all_eq_true.mp plain c mark
    · exact readable c kept

/-- A template is read as a layer without any setting. -/
theorem read?_render {lines : List Text}
    (readable : lines.all (·.all Toml.isPlain) = true) (filled : lines ≠ []) :
    Layer.read? (render lines) = some ⟨none, none⟩ := by
  have remarks : ∀ line ∈ lines.map commentOut, Toml.IsRemark line := by
    intro line member
    obtain ⟨line, listed, rfl⟩ := List.mem_map.mp member
    exact isRemark_commentOut (List.all_eq_true.mp (List.all_eq_true.mp readable line listed))
  have written : render lines = (lines.map commentOut).flatMap Text.line := by
    rw [render, List.flatMap_map]
  rw [Layer.read?, written, Toml.read?_remarks remarks (by simpa using filled)]
  rfl

/-- The template for a directory is read as a layer without any setting. -/
theorem read?_localText : Layer.read? localText = some ⟨none, none⟩ :=
  read?_render (by decide +kernel) (by decide)

/-- The template for the home directory is read as a layer without any setting. -/
theorem read?_globalText : Layer.read? globalText = some ⟨none, none⟩ :=
  read?_render (by decide +kernel) (by decide)

end Template
end BoolQuery
