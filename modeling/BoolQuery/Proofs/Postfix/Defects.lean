import BoolQuery.Converter
import BoolQuery.Proofs.Postfix.Groups
import BoolQuery.Proofs.Segments

/-!
# The first defect

`FirstDefect` names the diagnostic that is due to a malformed token list: the list is empty, or its
first parenthesis without a partner is to be reported. `strict_iff_firstDefect` says that strict
mode reports exactly this diagnostic and agrees with lenient mode on every other list, and the same
of queries.
-/

namespace BoolQuery

open Parentheses

/-- The diagnostic due to a token list, if it is malformed. -/
inductive FirstDefect : List PlacedToken → Diagnostic → Prop where
  | empty : FirstDefect [] ⟨.emptyQuery, none, none⟩
  | stray {tokens first later} (leftOver : unmatched tokens = first :: later)
      (closes : first.token = .closeParen) :
      FirstDefect tokens ⟨.unmatchedClose, some first.offset, none⟩
  | unclosed {tokens first later} (leftOver : unmatched tokens = first :: later)
      (opens : first.token = .openParen) :
      FirstDefect tokens ⟨.unmatchedOpen, some first.offset, none⟩

/-- The diagnostic of a parenthesis without a partner. -/
def Diagnostic.ofParen (placed : PlacedToken) : Diagnostic :=
  ⟨if placed.token = .closeParen then .unmatchedClose else .unmatchedOpen, some placed.offset, none⟩

/-- Unmatched parentheses are parentheses, the closing ones first. -/
theorem unmatched_parts (tokens : List PlacedToken) :
    ∃ strays unclosed, unmatched tokens = strays ++ unclosed ∧
      (∀ stray ∈ strays, stray.token = .closeParen) ∧
      ∀ opening ∈ unclosed, opening.token = .openParen := by
  obtain ⟨strays, unclosed, parts, closing, opening, _⟩ :=
    Progress.run_unmatched [] [] rfl (by simp) tokens
  exact ⟨strays, unclosed, parts, closing, opening⟩

/-- Only parentheses can be without a partner. -/
theorem unmatched_isParen {tokens : List PlacedToken} {placed : PlacedToken}
    (member : placed ∈ unmatched tokens) :
    placed.token = .closeParen ∨ placed.token = .openParen := by
  obtain ⟨strays, unclosed, parts, closing, opening⟩ := unmatched_parts tokens
  rw [parts] at member
  exact (List.mem_append.mp member).imp (closing placed) (opening placed)

/-- The defects of a non-empty list are its parentheses without a partner, in order. -/
theorem Conversion.defects_ofTokens (tokens : List PlacedToken) :
    (Conversion.ofTokens tokens).defects =
      (if tokens.isEmpty then [⟨.emptyQuery, none, none⟩] else []) ++
        (unmatched tokens).map Diagnostic.ofParen := by
  obtain ⟨strays, unclosed, parts, closing, opening, strayOffsets, openOffsets⟩ :=
    Progress.run_unmatched [] [] rfl (by simp) tokens
  have strayDefects : strays.map Diagnostic.ofParen =
      (Progress.run [] tokens).strays.map fun offset => ⟨.unmatchedClose, some offset, none⟩ := by
    rw [strayOffsets, List.map_map]
    exact List.map_congr_left fun stray member => by simp [Diagnostic.ofParen, closing stray member]
  have openDefects : unclosed.map Diagnostic.ofParen =
      ((Progress.run [] tokens).stack.filterMap Pending.groupOffset?).reverse.map
        fun offset => ⟨.unmatchedOpen, some offset, none⟩ := by
    rw [Progress.openOffsets] at openOffsets
    rw [openOffsets, List.map_map]
    exact List.map_congr_left fun paren member => by simp [Diagnostic.ofParen, opening paren member]
  rw [unmatched, parts, List.map_append, strayDefects, openDefects]
  simp [Conversion.ofTokens]

/-- A list with a parenthesis left over is not empty. -/
theorem ne_nil_of_unmatched {tokens later : List PlacedToken} {first : PlacedToken}
    (leftOver : unmatched tokens = first :: later) : tokens ≠ [] := by
  rintro rfl
  simp [unmatched, unmatchedFrom] at leftOver

/-- The due diagnostic is the first of the defects. -/
theorem firstDefect_iff {tokens : List PlacedToken} {diagnostic : Diagnostic} :
    FirstDefect tokens diagnostic ↔
      (Conversion.ofTokens tokens).defects.head? = some diagnostic := by
  rw [Conversion.defects_ofTokens]
  constructor
  · intro due
    cases due with
    | empty => rfl
    | stray leftOver closes =>
        simp [ne_nil_of_unmatched leftOver, leftOver, Diagnostic.ofParen, closes]
    | unclosed leftOver opens =>
        simp [ne_nil_of_unmatched leftOver, leftOver, Diagnostic.ofParen, opens]
  · intro first
    cases tokens with
    | nil =>
        have same : ⟨.emptyQuery, none, none⟩ = diagnostic := by simpa using first
        subst same
        exact .empty
    | cons placed tokens =>
        cases leftOver : unmatched (placed :: tokens) with
        | nil => simp [leftOver] at first
        | cons paren later =>
            have same : Diagnostic.ofParen paren = diagnostic := by simpa [leftOver] using first
            have member : paren ∈ unmatched (placed :: tokens) := by simp [leftOver]
            subst same
            rcases unmatched_isParen member with closes | opens
            · simpa [Diagnostic.ofParen, closes] using FirstDefect.stray leftOver closes
            · simpa [Diagnostic.ofParen, opens] using FirstDefect.unclosed leftOver opens

/-- A conversion has no defects exactly if the list is not empty and every parenthesis has a
partner. -/
theorem Conversion.defects_eq_nil_iff {tokens : List PlacedToken} :
    (Conversion.ofTokens tokens).defects = [] ↔ tokens ≠ [] ∧ unmatched tokens = [] := by
  rw [Conversion.defects_ofTokens]
  cases tokens <;> simp

namespace Converter

/-- Lenient conversion always has a result. -/
theorem convertTokens_lenient (converter : Converter) (tokens : List PlacedToken) :
    converter.convertTokens false tokens =
      .ok (converter.write (Conversion.ofTokens tokens)) := by
  rw [convertTokens]
  cases (Conversion.ofTokens tokens).defects <;> simp

/-- Strict conversion fails with the diagnostic of the first defect, and with no other. -/
theorem convertTokens_strict_error_iff {converter : Converter} {tokens : List PlacedToken}
    {diagnostic : Diagnostic} :
    converter.convertTokens true tokens = .error diagnostic ↔ FirstDefect tokens diagnostic := by
  rw [firstDefect_iff, convertTokens]
  cases (Conversion.ofTokens tokens).defects <;> simp

/-- Strict conversion accepts a list without defects, and then it agrees with lenient conversion. -/
theorem convertTokens_strict_ok_iff {converter : Converter} {tokens : List PlacedToken}
    {output : List Text} :
    converter.convertTokens true tokens = .ok output ↔
      tokens ≠ [] ∧ unmatched tokens = [] ∧ converter.convertTokens false tokens = .ok output := by
  rw [← and_assoc, ← Conversion.defects_eq_nil_iff, convertTokens_lenient, convertTokens]
  cases (Conversion.ofTokens tokens).defects <;> simp

/-- Strict mode fails on empty lists and on lists with a parenthesis without a partner. -/
theorem convertTokens_strict_fails_iff {converter : Converter} {tokens : List PlacedToken} :
    (∃ diagnostic, converter.convertTokens true tokens = .error diagnostic) ↔
      tokens = [] ∨ unmatched tokens ≠ [] := by
  have malformed : (Conversion.ofTokens tokens).defects ≠ [] ↔
      tokens = [] ∨ unmatched tokens ≠ [] := by
    rw [Ne, Conversion.defects_eq_nil_iff, Classical.not_and_iff_not_or_not, Classical.not_not]
  rw [← malformed, convertTokens]
  cases (Conversion.ofTokens tokens).defects <;> simp

/-- Strict conversion of a query is that of its tokens, and a diagnostic takes the query along. -/
theorem toPostfixStrict_eq (converter : Converter) (query : Text) :
    converter.toPostfixStrict query =
      match converter.convertTokens true (converter.tokens query) with
      | .error diagnostic => .error (diagnostic.withQuery query)
      | .ok output => .ok output := by
  rw [toPostfixStrict]
  cases converter.convertTokens true (converter.tokens query) <;> rfl

/-- A query is converted by way of its tokens. A diagnostic takes the query along. -/
theorem convert_eq_convertTokens (converter : Converter) (query : Text) :
    converter.convert query =
      (converter.convertTokens converter.options.strict (converter.tokens query)).mapError
        (·.withQuery query) := by
  rw [convert]
  cases converter.options.strict with
  | true => rfl
  | false =>
      rw [convertTokens_lenient]
      rfl

/-- A query is refused for the first defect of its tokens, with the query attached. -/
theorem toPostfixStrict_error_iff {converter : Converter} {query : Text} {diagnostic : Diagnostic} :
    converter.toPostfixStrict query = .error diagnostic ↔
      ∃ due, FirstDefect (converter.tokens query) due ∧
        diagnostic = { due with query := some query } := by
  have due_iff : ∀ due, converter.convertTokens true (converter.tokens query) = .error due ↔
      FirstDefect (converter.tokens query) due := fun _ => convertTokens_strict_error_iff
  simp only [← due_iff, toPostfixStrict_eq]
  cases converter.convertTokens true (converter.tokens query) <;>
    simp [Diagnostic.withQuery, eq_comm]

/-- A query is accepted if its tokens have no defect, with the result of lenient conversion. -/
theorem toPostfixStrict_ok_iff {converter : Converter} {query : Text} {output : List Text} :
    converter.toPostfixStrict query = .ok output ↔
      converter.tokens query ≠ [] ∧ unmatched (converter.tokens query) = [] ∧
        output = converter.toPostfix query := by
  have lenient : converter.convertTokens false (converter.tokens query) = .ok output ↔
      output = converter.toPostfix query := by
    rw [convertTokens_lenient, Except.ok.injEq, toPostfix, eq_comm]
  rw [← lenient, ← convertTokens_strict_ok_iff, toPostfixStrict_eq]
  cases converter.convertTokens true (converter.tokens query) <;> simp

/-- A query is converted to its lenient result in either mode, unless strict mode rejects it. -/
theorem toPostfix_of_convert {converter : Converter} {query : Text} {output : List Text}
    (accepted : converter.convert query = .ok output) : output = converter.toPostfix query := by
  unfold convert at accepted
  split at accepted
  · exact (toPostfixStrict_ok_iff.mp accepted).2.2
  · exact (Except.ok.inj accepted).symm

/-- A query is reported as empty exactly if it is blank. -/
theorem toPostfixStrict_empty_iff {converter : Converter} {query : Text} :
    (∃ diagnostic, converter.toPostfixStrict query = .error diagnostic ∧
      diagnostic.defect = .emptyQuery) ↔ ∀ c ∈ query, Text.isBlank c = true := by
  have blank_iff : converter.tokens query = [] ↔ ∀ c ∈ query, Text.isBlank c = true :=
    Token.ofQuery_eq_nil_iff
  rw [← blank_iff]
  constructor
  · rintro ⟨diagnostic, failed, defect⟩
    obtain ⟨due, first, rfl⟩ := toPostfixStrict_error_iff.mp failed
    generalize converter.tokens query = tokens at first
    cases first with
    | empty => rfl
    | stray _ _ => cases defect
    | unclosed _ _ => cases defect
  · intro empty
    refine ⟨⟨.emptyQuery, none, some query⟩, toPostfixStrict_error_iff.mpr ?_, rfl⟩
    exact ⟨⟨.emptyQuery, none, none⟩, by rw [empty]; exact .empty, rfl⟩

/-- Strict mode reports the first defect and otherwise agrees with lenient mode, which always
succeeds. Parentheses without a partner are reported in the order of the tokens, in which all
closing ones come before all opening ones. A failed query comes with the diagnostic. -/
theorem strict_iff_firstDefect (converter : Converter) :
    (∀ tokens, (∃ diagnostic, converter.convertTokens true tokens = .error diagnostic) ↔
      tokens = [] ∨ unmatched tokens ≠ []) ∧
    (∀ tokens diagnostic, converter.convertTokens true tokens = .error diagnostic ↔
      FirstDefect tokens diagnostic) ∧
    (∀ tokens output, converter.convertTokens true tokens = .ok output ↔
      tokens ≠ [] ∧ unmatched tokens = [] ∧ converter.convertTokens false tokens = .ok output) ∧
    (∀ tokens, ∃ output, converter.convertTokens false tokens = .ok output) ∧
    (∀ tokens, (unmatched tokens).Sublist tokens ∧
      ∃ strays unclosed, unmatched tokens = strays ++ unclosed ∧
        (∀ stray ∈ strays, stray.token = .closeParen) ∧
        ∀ opening ∈ unclosed, opening.token = .openParen) ∧
    (∀ query diagnostic, converter.toPostfixStrict query = .error diagnostic ↔
      ∃ due, FirstDefect (converter.tokens query) due ∧
        diagnostic = { due with query := some query }) ∧
    (∀ query output, converter.toPostfixStrict query = .ok output ↔
      converter.tokens query ≠ [] ∧ unmatched (converter.tokens query) = [] ∧
        output = converter.toPostfix query) ∧
    ∀ query, (∃ diagnostic, converter.toPostfixStrict query = .error diagnostic ∧
      diagnostic.defect = .emptyQuery) ↔ ∀ c ∈ query, Text.isBlank c = true := by
  refine ⟨fun _ => convertTokens_strict_fails_iff, fun _ _ => convertTokens_strict_error_iff,
    fun _ _ => convertTokens_strict_ok_iff,
    fun tokens => ⟨_, converter.convertTokens_lenient tokens⟩, fun tokens => ⟨?_, ?_⟩,
    fun _ _ => toPostfixStrict_error_iff, fun _ _ => toPostfixStrict_ok_iff,
    fun _ => toPostfixStrict_empty_iff⟩
  · simpa [unmatched] using unmatchedFrom_sublist [] tokens
  · exact unmatched_parts tokens

end Converter
end BoolQuery
