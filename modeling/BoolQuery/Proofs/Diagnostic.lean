import BoolQuery.Proofs.Caret
import BoolQuery.Proofs.Postfix.Defects

/-!
# What diagnostics point at

The offset of a diagnostic is that of a token, and a token stands in the query where its offset says
(`exists_cut_of_mem_ofQuery`). The columns before the caret are the characters before the offset
(`Text.Fills.upTo`). Hence the caret of a strict diagnostic stands under the parenthesis that has no
partner, and the diagnostic of an empty query has no caret at all.
-/

namespace BoolQuery

open Parentheses

namespace Defect

/-- The parenthesis that a defect is about. -/
def paren? : Defect → Option Char
  | .unmatchedClose => some ')'
  | .unmatchedOpen => some '('
  | .emptyQuery => none

end Defect

namespace Diagnostic

/-- The caret stands behind the spaces of its line. -/
theorem idxOf_caret (spaces : Nat) :
    ("  ".toList ++ List.replicate spaces ' ' ++ ['^']).idxOf '^' = 2 + spaces := by
  have notSpace : '^' ∉ "  ".toList ++ List.replicate spaces ' ' := by simp
  rw [List.idxOf_append_of_notMem notSpace, List.length_append, List.length_replicate,
    List.idxOf_cons_self, Nat.add_zero]
  rfl

/-- A diagnostic of a query points at the character between two parts of it. This is the parenthesis
that the defect is about, the offset is where it starts, and it is a token of its own, with no other
token reaching there. The lines shown are the message, the query behind two spaces, a caret behind
two spaces and one for every character of the first part, and the hint. -/
structure PointsAt (diagnostic : Diagnostic) (anyCase : Bool) (query : Text) (before : Text)
    (c : Char) (after : Text) : Prop where
  cut : query = before ++ c :: after
  offset : diagnostic.offset = some (Text.byteLength before)
  sign : diagnostic.defect.paren? = some c
  token : ∃ placed ∈ Token.ofQuery anyCase query, placed.token.isParen = true ∧
    placed.token.text = [c] ∧ placed.offset = Text.byteLength before ∧
    ∀ other ∈ Token.ofQuery anyCase query, other.Covers (Text.byteLength before) → other = placed
  shown : ∃ caret hint, caret = "  ".toList ++ List.replicate before.length ' ' ++ ['^'] ∧
    query[caret.idxOf '^' - 2]? = some c ∧ diagnostic.defect.hint? = some hint ∧
    diagnostic.render = Text.line ("query syntax error: ".toList ++ diagnostic.defect.message) ++
      Text.line ("  ".toList ++ query) ++ Text.line caret ++ ("hint: ".toList ++ hint)

/-- The diagnostic of a parenthesis points at it. -/
theorem pointsAt_of_mem {anyCase : Bool} {query : Text} {placed : PlacedToken}
    (member : placed ∈ Token.ofQuery anyCase query) {defect : Defect} {c : Char}
    (paren : placed.token.isParen = true) (text : placed.token.text = [c])
    (sign : defect.paren? = some c) :
    ∃ before after, Text.byteLength before = placed.offset ∧
      PointsAt ⟨defect, some placed.offset, some query⟩ anyCase query before c after := by
  obtain ⟨before, word, after, cut, offset, _, spells⟩ := Token.exists_cut_of_mem_ofQuery member
  have alone : word = [c] := by
    rw [← text]
    cases kind : placed.token with
    | operator _ | term _ => rw [kind] at paren; cases paren
    | openParen | closeParen => rw [kind] at spells; exact spells
  have cut : query = before ++ c :: after := by
    rw [cut, alone, List.append_assoc]
    rfl
  have covers : placed.Covers (Text.byteLength before) := by
    have size := c.utf8Size_pos
    rw [PlacedToken.Covers, PlacedToken.stop, text, offset, Text.byteLength_cons]
    omega
  obtain ⟨hint, hinted⟩ : ∃ hint, defect.hint? = some hint := by
    cases defect with
    | emptyQuery => cases sign
    | unmatchedClose | unmatchedOpen => exact ⟨_, rfl⟩
  refine ⟨before, after, offset, cut, congrArg some offset.symm, sign, ⟨placed, member, paren, text,
    offset.symm, fun other otherMember otherCovers => ?_⟩, ⟨_, hint, rfl, ?_, hinted, ?_⟩⟩
  · exact PlacedToken.eq_of_covers (Token.ofQuery_ordered anyCase query) otherMember member
      otherCovers covers
  · rw [idxOf_caret, Nat.add_sub_cancel_left, cut, List.getElem?_append_right (Nat.le_refl _),
      Nat.sub_self, List.getElem?_cons_zero]
  · simp only [render, context, caretLine, hinted, ← offset]
    rw [cut, (Text.Fills.upTo before (c :: after)).column]
    simp only [List.append_assoc]

/-- The diagnostic of a query without tokens ends with the query. -/
theorem render_emptyQuery (query : Text) :
    render ⟨.emptyQuery, none, some query⟩ =
      Text.line "query syntax error: empty query" ++ Text.line ("  ".toList ++ query) := by
  simp only [render, context, Defect.hint?, List.append_nil]
  rfl

/-- The message about an empty query has no caret, since there is nothing to point at. -/
theorem caret_not_mem_render_emptyQuery {query : Text}
    (blank : ∀ c ∈ query, Text.isBlank c = true) :
    '^' ∉ render ⟨.emptyQuery, none, some query⟩ := by
  have notInQuery : '^' ∉ query := fun member => absurd (blank '^' member) (by decide)
  have notInMessage : '^' ∉ Text.line "query syntax error: empty query" := by decide
  rw [render_emptyQuery, List.mem_append, not_or]
  exact ⟨notInMessage, by simp [Text.line, notInQuery]⟩

end Diagnostic

namespace Converter

/-- The diagnostic of the first parenthesis without a partner points at it. -/
theorem pointsAt_of_unmatched {converter : Converter} {query : Text}
    {tokens later : List PlacedToken} {placed : PlacedToken} {token : Token} {c : Char}
    (defect : Defect) (listed : converter.tokens query = tokens)
    (leftOver : unmatched tokens = placed :: later) (kind : placed.token = token)
    (paren : token.isParen = true) (text : token.text = [c]) (sign : defect.paren? = some c) :
    ∃ before after, Text.byteLength before = placed.offset ∧
      Diagnostic.PointsAt ⟨defect, some placed.offset, some query⟩ converter.options.anyCase query
        before c after := by
  subst listed kind
  have member : placed ∈ unmatched (converter.tokens query) := by
    rw [leftOver]
    exact List.mem_cons_self
  exact Diagnostic.pointsAt_of_mem (mem_of_mem_unmatched member) paren text sign

/-- A diagnostic of strict conversion with a known offset points at a parenthesis of the query, one
that is a token of its own. Only the diagnostic of a query without tokens has no offset, and it
shows neither a caret nor a hint. -/
theorem toPostfixStrict_pointsAt {converter : Converter} {query : Text} {diagnostic : Diagnostic}
    (rejected : converter.toPostfixStrict query = .error diagnostic) :
    (∀ offset, diagnostic.offset = some offset →
      ∃ before c after, Text.byteLength before = offset ∧
        diagnostic.PointsAt converter.options.anyCase query before c after) ∧
    (diagnostic.offset = none ↔ diagnostic.defect = .emptyQuery) ∧
    (diagnostic.defect = .emptyQuery →
      diagnostic.render = Text.line "query syntax error: empty query" ++
        Text.line ("  ".toList ++ query) ∧
      '^' ∉ diagnostic.render ∧ diagnostic.defect.hint? = none) := by
  obtain ⟨due, first, rfl⟩ := toPostfixStrict_error_iff.mp rejected
  generalize listed : converter.tokens query = tokens at first
  cases first with
  | empty =>
      have blank := Token.ofQuery_eq_nil_iff.mp listed
      exact ⟨nofun, iff_of_true rfl rfl, fun _ => ⟨Diagnostic.render_emptyQuery query,
        Diagnostic.caret_not_mem_render_emptyQuery blank, rfl⟩⟩
  | stray leftOver closes =>
      obtain ⟨before, after, starts, points⟩ :=
        pointsAt_of_unmatched .unmatchedClose listed leftOver closes rfl rfl rfl
      refine ⟨?_, iff_of_false nofun nofun, nofun⟩
      exact fun offset same => ⟨before, ')', after, starts.trans (Option.some.inj same), points⟩
  | unclosed leftOver opens =>
      obtain ⟨before, after, starts, points⟩ :=
        pointsAt_of_unmatched .unmatchedOpen listed leftOver opens rfl rfl rfl
      refine ⟨?_, iff_of_false nofun nofun, nofun⟩
      exact fun offset same => ⟨before, '(', after, starts.trans (Option.some.inj same), points⟩

/-- Of the parentheses behind a wide blank and some letters of several bytes each, the first one
without a partner is a closing one. The one that starts a term does not count. -/
theorem toPostfixStrict_pointsAt_of_multibyte :
    let converter : Converter := ⟨id, ⟨false, false⟩⟩
    let query := "\u3000(é)日 日) ) (".toList
    let diagnostic : Diagnostic := ⟨.unmatchedClose, some 16, some query⟩
    converter.toPostfixStrict query = .error diagnostic ∧
      (∃ before c after, Text.byteLength before = 16 ∧
        diagnostic.PointsAt false query before c after) ∧
      diagnostic.offset ≠ none := by
  intro converter query diagnostic
  have rejected : converter.toPostfixStrict query = .error diagnostic := by decide +kernel
  obtain ⟨pointed, _, _⟩ := toPostfixStrict_pointsAt rejected
  exact ⟨rejected, pointed 16 rfl, nofun⟩

end Converter
end BoolQuery
