import BoolQuery.Proofs.Toml.Quoted
import BoolQuery.Toml.Document
import Mathlib.Data.List.Forall2

/-!
# Reading written lines

`IsLine` says that a line is read as a statement wherever it stands in a document. Headers with one
bare name are such lines, and so are assignments of quoted texts and of truth values to bare names.
`readAll?_lines` concludes that a document of such lines is read as their statements.
-/

namespace BoolQuery.Toml

/-- Nothing is skipped before a character that is no space. -/
theorem skipSpaces_eq_self {input : Text} (solid : ∀ c, input.head? = some c → isSpace c = false) :
    skipSpaces input = input := by
  cases input with
  | nil => rfl
  | cons c rest => simp [skipSpaces, solid c rfl]

/-- An input that starts with neither quote is no quotation. -/
theorem Quoted.Form.ofInput?_eq_none {c : Char} {rest : Text} (noQuotation : c ≠ '"')
    (noApostrophe : c ≠ '\x27') : ofInput? (c :: rest) = none := by
  simp [ofInput?, noQuotation, noApostrophe]

namespace Key

variable {name rest : Text}

/-- A bare name starts neither a quotation nor a comment, and no blank, bracket or line end is part
of it. -/
theorem ne_of_isBare {c : Char} (bare : isBare c = true) :
    isSpace c = false ∧ c ∉ ['"', '\x27', '[', '{', '#', '\n', '\r', '\ufeff'] := by
  constructor
  · rw [Bool.eq_false_iff]
    intro space
    rcases (by simpa [isSpace] using space : c = ' ' ∨ c = '\t') with rfl | rfl <;>
      exact absurd bare (by decide)
  · intro member
    have none : ['"', '\x27', '[', '{', '#', '\n', '\r', '\ufeff'].any isBare = false := by decide
    exact List.any_eq_false.mp none c member bare

/-- A bare name is read up to the first character that cannot be part of it. -/
theorem readName?_bare (bare : ∀ c ∈ name, isBare c = true) (filled : name ≠ [])
    (ends : ∀ c, rest.head? = some c → isBare c = false) :
    readName? (name ++ rest) = some (name, rest) := by
  have taken : (name ++ rest).takeWhile isBare = name := by
    rw [List.takeWhile_append_of_pos bare]
    cases rest with
    | nil => simp
    | cons c rest => simp [ends c rfl]
  have left : (name ++ rest).dropWhile isBare = rest := by
    rw [List.dropWhile_append_of_pos bare]
    cases rest with
    | nil => rfl
    | cons c rest => simp [ends c rfl]
  obtain ⟨c, later, rfl⟩ := List.exists_cons_of_ne_nil filled
  obtain ⟨_, distinct⟩ := ne_of_isBare (bare c List.mem_cons_self)
  simp only [List.mem_cons, not_or] at distinct
  have noQuotation : Quoted.Form.ofInput? (c :: later ++ rest) = none :=
    Quoted.Form.ofInput?_eq_none distinct.1 distinct.2.1
  rw [readName?, noQuotation, taken, left]

/-- A key of one bare name is read with the blanks behind it. -/
theorem read?_bare (bare : ∀ c ∈ name, isBare c = true) (filled : name ≠ [])
    (ends : ∀ c, rest.head? = some c → isBare c = false)
    (last : (skipSpaces rest).head? ≠ some '.') :
    read? (name ++ rest) = some (⟨[], name⟩, skipSpaces rest) := by
  have started : skipSpaces (name ++ rest) = name ++ rest := by
    apply skipSpaces_eq_self
    obtain ⟨c, later, rfl⟩ := List.exists_cons_of_ne_nil filled
    intro d first
    cases first
    exact (ne_of_isBare (bare c List.mem_cons_self)).1
  have names : readNames? ((name ++ rest).length + 1) (name ++ rest) =
      some ([name], skipSpaces rest) := by
    rw [readNames?, started, readName?_bare bare filled ends]
    simp only [Option.bind_eq_bind, Option.bind_some]
    split
    · next dotted => simp [dotted] at last
    · rfl
  rw [read?, names]
  rfl

end Key

namespace Value

/-- What does not start with a bracket or brace is no array or table. -/
theorem read?_scalar {c : Char} {rest : Text} (noBracket : c ≠ '[') (noBrace : c ≠ '{')
    (depth : Nat) : read? depth (c :: rest) = readScalar? (c :: rest) := by
  cases depth with
  | zero => rfl
  | succ depth => simp [read?, noBracket, noBrace]

/-- What a quotation shows is read as a text. -/
theorem readScalar?_of_read? {input text rest : Text}
    (quoted : Quoted.read? input = some (text, rest)) :
    readScalar? input = some (.text text, rest) := by
  rw [Quoted.read?] at quoted
  obtain ⟨⟨form, body⟩, form?, read⟩ := Option.bind_eq_some_iff.mp quoted
  have read : Quoted.readBody? form body = some (text, rest) := read
  simp only [readScalar?, form?, read, Option.map_some]

end Value

namespace Statement

/-- A line that is read as a statement, whatever follows it. -/
def IsLine (line : Text) (statement : Statement) : Prop :=
  ∀ rest, ∃ after, read? (line ++ '\n' :: rest) = some (statement, after) ∧
    endLine? after = some rest

/-- The texts that stand for a value at the end of a line. -/
def IsValue (written : Text) (value : Value) : Prop :=
  (∀ c, written.head? = some c → isSpace c = false) ∧ written ≠ [] ∧
    ∀ rest, Value.read? Value.maxDepth (written ++ '\n' :: rest) = some (value, '\n' :: rest)

/-- A line feed ends a line. -/
theorem endLine?_lineFeed (rest : Text) : endLine? ('\n' :: rest) = some rest := by
  simp [endLine?, skipSpaces, isSpace]

/-- A document whose lines are read one by one is read as their statements. -/
theorem readAll?_lines {lines : List Text} {statements : List Statement}
    (areLines : List.Forall₂ IsLine lines statements) (filled : lines ≠ []) {fuel : Nat}
    (enough : lines.length ≤ fuel) : readAll? fuel (lines.flatMap Text.line) = some statements := by
  induction areLines generalizing fuel with
  | nil => exact absurd rfl filled
  | @cons line statement lines statements isLine areLines inductionHypothesis =>
      obtain ⟨fuel, rfl⟩ : ∃ less, fuel = less + 1 := by
        cases fuel with
        | zero => simp at enough
        | succ fuel => exact ⟨fuel, rfl⟩
      have enoughLeft : lines.length ≤ fuel := by simpa using enough
      obtain ⟨after, read, ended⟩ := isLine (lines.flatMap Text.line)
      have joined : (line :: lines).flatMap Text.line =
          line ++ '\n' :: lines.flatMap Text.line := by
        simp [Text.line]
      rw [joined, readAll?, read]
      simp only [Option.bind_eq_bind, Option.bind_some, ended]
      cases areLines with
      | nil => rfl
      | @cons next _ lines _ _ _ =>
          have more : ((next :: lines).flatMap Text.line).isEmpty = false := by
            simp [Text.line]
          rw [more, inductionHypothesis (List.cons_ne_nil _ _) enoughLeft]
          rfl

variable {name written : Text} {value : Value}

/-- A key between brackets is the header of a table. -/
theorem read?_header {key : Key} {input rest : Text} (single : input.head? ≠ some '[')
    (closed : Key.read? input = some (key, ']' :: rest)) :
    read? ('[' :: input) = some (.header (.table key), rest) := by
  have started : skipSpaces ('[' :: input) = '[' :: input := by simp [skipSpaces, isSpace]
  rw [read?, started]
  split
  · next found => cases found
  · next found =>
      cases found
      simp at single
  · next found =>
      cases found
      simp [closed]
  · next noBracket found => exact (noBracket (List.cons.inj found).1.symm).elim

/-- What starts like a bare name is an assignment. -/
theorem read?_assignment {key : Key} {c : Char} {input rest : Text} (bare : Key.isBare c = true)
    (assigns : Value.readAssignment? (Value.read? Value.maxDepth) (c :: input) =
      some ((key, value), rest)) :
    read? (c :: input) = some (.assign key value, rest) := by
  obtain ⟨noSpace, distinct⟩ := Key.ne_of_isBare bare
  simp only [List.mem_cons, not_or] at distinct
  have started : skipSpaces (c :: input) = c :: input := by simp [skipSpaces, noSpace]
  rw [read?, started]
  split
  · next found => cases found
  · next found => exact absurd (List.cons.inj found).1 distinct.2.2.1
  · next found => exact absurd (List.cons.inj found).1 distinct.2.2.1
  · next found =>
      cases found
      simp [distinct, assigns]

/-- The header of a table with a bare name is a line. -/
theorem isLine_header (allBare : name.all Key.isBare = true) (filled : name ≠ []) :
    IsLine ('[' :: (name ++ [']'])) (.header (.table ⟨[], name⟩)) := by
  intro rest
  have bare := List.all_eq_true.mp allBare
  refine ⟨'\n' :: rest, ?_, endLine?_lineFeed rest⟩
  have bracket : skipSpaces (']' :: '\n' :: rest) = ']' :: '\n' :: rest := rfl
  have closed : Key.read? (name ++ ']' :: '\n' :: rest) =
      some (⟨[], name⟩, ']' :: '\n' :: rest) := by
    refine Key.read?_bare bare filled ?_ (by simp [bracket])
    intro c first
    cases first
    decide
  have single : (name ++ ']' :: '\n' :: rest).head? ≠ some '[' := by
    rw [List.head?_append_of_ne_nil _ filled]
    intro first
    exact absurd (bare '[' (List.mem_of_head? first)) (by decide)
  have joined : '[' :: (name ++ [']']) ++ '\n' :: rest = '[' :: (name ++ ']' :: '\n' :: rest) := by
    simp
  rw [joined, read?_header single closed]

/-- The assignment of a value to a bare name is a line. -/
theorem isLine_assign (allBare : name.all Key.isBare = true) (filled : name ≠ [])
    (isValue : IsValue written value) :
    IsLine (name ++ " = ".toList ++ written) (.assign ⟨[], name⟩ value) := by
  intro rest
  have bare := List.all_eq_true.mp allBare
  obtain ⟨tight, valueFilled, reads⟩ := isValue
  refine ⟨'\n' :: rest, ?_, endLine?_lineFeed rest⟩
  have equals : skipSpaces (' ' :: '=' :: ' ' :: (written ++ '\n' :: rest)) =
      '=' :: ' ' :: (written ++ '\n' :: rest) := rfl
  have key : Key.read? (name ++ ' ' :: '=' :: ' ' :: (written ++ '\n' :: rest)) =
      some (⟨[], name⟩, '=' :: ' ' :: (written ++ '\n' :: rest)) := by
    refine Key.read?_bare bare filled ?_ (by simp [equals])
    intro c first
    cases first
    decide
  have behind : skipSpaces (' ' :: (written ++ '\n' :: rest)) = written ++ '\n' :: rest := by
    have solid : skipSpaces (written ++ '\n' :: rest) = written ++ '\n' :: rest := by
      apply skipSpaces_eq_self
      rwa [List.head?_append_of_ne_nil _ valueFilled]
    exact solid
  have assigns : Value.readAssignment? (Value.read? Value.maxDepth)
      (name ++ ' ' :: '=' :: ' ' :: (written ++ '\n' :: rest)) =
        some ((⟨[], name⟩, value), '\n' :: rest) := by
    simp [Value.readAssignment?, key, behind, reads]
  have joined : name ++ " = ".toList ++ written ++ '\n' :: rest =
      name ++ ' ' :: '=' :: ' ' :: (written ++ '\n' :: rest) := by
    simp
  rw [joined]
  obtain ⟨c, later, rfl⟩ := List.exists_cons_of_ne_nil filled
  exact read?_assignment (bare c List.mem_cons_self) assigns

/-- A quoted text is a value. -/
theorem isValue_quoted (text : Text) : IsValue (Quoted.write text) (.text text) := by
  have first : ∃ later, Quoted.write text = (Quoted.Form.choose text).quote :: later := by
    rw [Quoted.write]
    generalize Quoted.Form.choose text = form
    cases form <;> exact ⟨_, rfl⟩
  obtain ⟨later, written⟩ := first
  refine ⟨?_, by simp [written], fun rest => ?_⟩
  · intro c head
    rw [written] at head
    cases head
    cases Quoted.Form.choose text <;> decide
  · have scalar : Value.read? Value.maxDepth (Quoted.write text ++ '\n' :: rest) =
        Value.readScalar? (Quoted.write text ++ '\n' :: rest) := by
      rw [written]
      cases Quoted.Form.choose text <;> exact Value.read?_scalar (by decide) (by decide) _
    rw [scalar]
    exact Value.readScalar?_of_read? (Quoted.read?_write text (by simp) (by simp))

/-- A truth value is a value. -/
theorem isValue_boolean (truth : Bool) :
    IsValue (if truth then "true".toList else "false".toList) (.boolean truth) := by
  cases truth with
  | true =>
      refine ⟨by simp [isSpace], by simp, fun rest => ?_⟩
      exact (Value.read?_scalar (by decide) (by decide) Value.maxDepth).trans rfl
  | false =>
      refine ⟨by simp [isSpace], by simp, fun rest => ?_⟩
      exact (Value.read?_scalar (by decide) (by decide) Value.maxDepth).trans rfl

end Statement
end BoolQuery.Toml
