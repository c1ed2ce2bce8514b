import BoolQuery.Proofs.Canonical
import BoolQuery.Proofs.Postfix.Completion

/-!
# Parentheses in the result

An opening parenthesis in the result marks a group that was never closed. A term can look the same:
only spaces separate tokens, so a tab in front of a parenthesis makes it part of a term, and
trimming the term brings the parenthesis back. `count_parentheses` counts both kinds, and says that
there are only markers where spaces are the only blank characters.
-/

namespace BoolQuery

open Parentheses

/-- Whether a token is a term that consists of a given text and blank characters around it. -/
def Token.wraps (core : Text) (token : Token) : Bool :=
  token.term?.any fun text => Text.trim text == core

/-- Elements that no operator is written as stem from unclosed groups and from terms. -/
theorem Slot.count_write {normalize : Text → Text} {element : Text}
    (noSymbol : ∀ op : Operator, op.symbol ≠ element) (slots : List Slot) :
    (slots.map (write normalize)).count element =
      (if element = ['('] then slots.count .unclosed else 0) +
        slots.countP fun slot => slot.term?.any fun text => normalize text == element := by
  induction slots with
  | nil => simp only [List.map_nil, List.count_nil, List.countP_nil, ite_self]
  | cons slot slots inductionHypothesis =>
      rw [List.map_cons, List.count_cons, inductionHypothesis, List.count_cons, List.countP_cons]
      cases slot with
      | term text => simp [write, term?, Nat.add_assoc]
      | operator op => simp [write, term?, noSymbol op]
      | unclosed =>
          have marker : (write normalize .unclosed == element) = true ↔ element = ['('] := by
            rw [beq_iff_eq]
            exact eq_comm
          simp only [marker, beq_self_eq_true, term?, Option.any_none]
          split
          · simp
            omega
          · simp

namespace Accounts

variable {tokens : List PlacedToken} {slots : List Slot}

/-- As many terms of the result as of the query have a property of their text. -/
theorem countP_term (accounts : Accounts tokens slots) (holds : Text → Bool) :
    (slots.countP fun slot => slot.term?.any holds) =
      tokens.countP fun placed => placed.token.term?.any holds := by
  have chosen : ∀ {α : Type} (select : α → Option Text) (items : List α),
      (items.countP fun item => (select item).any holds) =
        (items.filterMap select).countP holds := by
    intro α select items
    rw [List.countP_filterMap]
    apply List.countP_congr
    intro item _
    cases select item <;> simp
  rw [chosen, chosen, accounts.ordered]

end Accounts

/-- The characters of a term stem from the query. -/
theorem Token.mem_of_mem_term {anyCase : Bool} {query text : Text} {placed : PlacedToken} {c : Char}
    (member : placed ∈ ofQuery anyCase query) (kind : placed.token = .term text)
    (occurs : c ∈ text) : c ∈ query := by
  rw [ofQuery_eq] at member
  obtain ⟨segment, listed, rfl⟩ := List.mem_map.mp member
  obtain ⟨whole, filled⟩ := Segment.whole_of_mem_solid listed
  obtain ⟨rfl, _⟩ := isTerm_of_ofSegment whole filled kind
  have gathered := List.mem_flatMap.mpr ⟨segment, listed, occurs⟩
  rw [Segment.flatMap_solid] at gathered
  exact Text.mem_of_mem_trim (List.mem_filter.mp gathered).1

/-- No term of a query whose only blank characters are spaces is a parenthesis between blanks. -/
theorem Token.wraps_eq_false {anyCase : Bool} {query core : Text} {placed : PlacedToken}
    (onlySpaces : ∀ c ∈ query, Text.isBlank c = true → c = ' ')
    (paren : core = ['('] ∨ core = [')']) (member : placed ∈ ofQuery anyCase query) :
    placed.token.wraps core = false := by
  cases kind : placed.token with
  | operator _ | openParen | closeParen => rfl
  | term text =>
      have isTerm := isTerm_of_mem_ofQuery member kind
      have noBlank : ∀ c ∈ text, Text.isBlank c = false := by
        intro c occurs
        refine Bool.eq_false_iff.mpr fun blank => ?_
        have space := onlySpaces c (mem_of_mem_term member kind occurs) blank
        rw [space] at occurs
        exact isTerm.whole.noSpace occurs
      have tight : Text.Tight text :=
        ⟨fun c first => noBlank c (List.mem_of_head? first),
          fun c last => noBlank c (List.mem_of_getLast? last)⟩
      have different : text ≠ core := by
        rcases paren with rfl | rfl
        · exact isTerm.notOpen
        · exact isTerm.notClose
      simpa [wraps, term?, Text.trim_eq_self tight] using different

namespace Converter

variable {options : ConvertOptions}

/-- With terms that are only lower-cased, a parenthesis in the result is an unclosed group or a term
that holds nothing else but blank characters. -/
theorem count_parenthesis [SuppliedStems] (query : Text) {c : Char} (paren : c = '(' ∨ c = ')') :
    let converter : Converter := ⟨Stemmer.none.normalize, options⟩
    (converter.toPostfix query).count [c] =
      (if c = '(' then (unmatched (converter.tokens query)).countP (·.token = .openParen) else 0) +
        (converter.tokens query).countP (·.token.wraps [c]) := by
  intro converter
  have noSymbol : ∀ op : Operator, op.symbol ≠ [c] := by
    intro op
    rcases paren with rfl | rfl <;> cases op <;> decide
  have lowered : ∀ text, Stemmer.none.normalize (Text.lower (Text.trim text)) = [c] ↔
      Text.trim text = [c] := by
    intro text
    have bounds : 0 < c.toNat ∧ c.toNat ≤ 0x40 := by
      rcases paren with rfl | rfl <;> decide
    rw [Stemmer.normalize, Text.lower_eq_singleton_iff bounds.1 bounds.2,
      Text.lower_eq_singleton_iff bounds.1 bounds.2]
  have accounts := Conversion.accounts (converter.tokens query)
  change ((Conversion.ofTokens _).slots.map (Slot.write converter.writeTerm)).count [c] = _
  have wrapping : ∀ text, (converter.writeTerm text == [c]) = (Text.trim text == [c]) := by
    intro text
    rw [Bool.eq_iff_iff, beq_iff_eq, beq_iff_eq]
    exact lowered text
  rw [Slot.count_write noSymbol, accounts.countP_term, Conversion.count_unclosed]
  simp only [wrapping, List.cons.injEq, and_true]
  rfl

/-- All parentheses in the result of a query whose terms are only lower-cased: an opening one for
every group without a partner, and one of either kind for every term that is this parenthesis
between blank characters. What strict mode accepts holds only those of the second kind. If spaces
are the only blank characters of the query, there are no such terms: opening parentheses are exactly
the groups without a partner, there are no closing ones, and what strict mode accepts holds neither.
-/
theorem count_parentheses [SuppliedStems] (query : Text) (options : ConvertOptions) :
    let converter : Converter := ⟨Stemmer.none.normalize, options⟩
    let tokens := converter.tokens query
    let opened := (unmatched tokens).countP (·.token = .openParen)
    let wrapped := fun core => tokens.countP (·.token.wraps core)
    (converter.toPostfix query).count ['('] = opened + wrapped ['('] ∧
    (converter.toPostfix query).count [')'] = wrapped [')'] ∧
    (∀ output, converter.toPostfixStrict query = .ok output →
      output.count ['('] = wrapped ['('] ∧ output.count [')'] = wrapped [')']) ∧
    ((∀ c ∈ query, Text.isBlank c = true → c = ' ') →
      (converter.toPostfix query).count ['('] = opened ∧ [')'] ∉ converter.toPostfix query ∧
      ∀ output, converter.toPostfixStrict query = .ok output →
        ['('] ∉ output ∧ [')'] ∉ output) := by
  intro converter tokens opened wrapped
  have opening : (converter.toPostfix query).count ['('] = opened + wrapped ['('] :=
    count_parenthesis query (.inl rfl)
  have closing : (converter.toPostfix query).count [')'] = wrapped [')'] := by
    simpa using @count_parenthesis options _ query ')' (.inr rfl)
  have accepted : ∀ output, converter.toPostfixStrict query = .ok output →
      output.count ['('] = wrapped ['('] ∧ output.count [')'] = wrapped [')'] := by
    intro output succeeded
    obtain ⟨_, matched, rfl⟩ := toPostfixStrict_ok_iff.mp succeeded
    have noneOpened : opened = 0 := by
      simp only [opened, tokens, matched, List.countP_nil]
    rw [noneOpened, Nat.zero_add] at opening
    exact ⟨opening, closing⟩
  refine ⟨opening, closing, accepted, fun onlySpaces => ?_⟩
  have noTerm : ∀ core, core = ['('] ∨ core = [')'] → wrapped core = 0 := by
    intro core paren
    refine List.countP_eq_zero.mpr fun placed member => ?_
    simp [Token.wraps_eq_false onlySpaces paren member]
  rw [noTerm _ (.inl rfl)] at opening
  rw [noTerm _ (.inr rfl), List.count_eq_zero] at closing
  refine ⟨opening, closing, fun output succeeded => ?_⟩
  rw [← List.count_eq_zero, ← List.count_eq_zero, (accepted output succeeded).1,
    (accepted output succeeded).2]
  exact ⟨noTerm _ (.inl rfl), noTerm _ (.inr rfl)⟩

/-- Spaces are the only blank characters of `(a ) or ( b`, and one of its groups has no partner. -/
theorem count_parentheses_of_spaces :
    let _ := SuppliedStems.unchanged
    let converter : Converter := ⟨Stemmer.none.normalize, ⟨false, true⟩⟩
    (∀ c ∈ "(a ) or ( b".toList, Text.isBlank c = true → c = ' ') ∧
    (converter.toPostfix "(a ) or ( b".toList).count ['('] = 1 ∧
    [')'] ∉ converter.toPostfix "(a ) or ( b".toList := by
  intro _ converter
  have listed : ("(a ) or ( b".toList.all fun c => !Text.isBlank c || c == ' ') = true := by
    decide +kernel
  have onlySpaces : ∀ c ∈ "(a ) or ( b".toList, Text.isBlank c = true → c = ' ' := by
    intro c member blank
    simpa [blank] using List.all_eq_true.mp listed c member
  have counted := (count_parentheses "(a ) or ( b".toList ⟨false, true⟩).2.2.2 onlySpaces
  exact ⟨onlySpaces, counted.1.trans (by decide +kernel), counted.2.1⟩

/-- A tab in front of a parenthesis makes it part of a term. The first query below then has no
group, open or not, and the second one is well-formed, yet the results of both hold an opening
parenthesis. -/
theorem parenthesis_of_tab :
    let _ := SuppliedStems.unchanged
    let converter : Converter := ⟨Stemmer.none.normalize, ⟨false, false⟩⟩
    (unmatched (converter.tokens "a \t( b )".toList)).countP (·.token = .openParen) = 0 ∧
    converter.toPostfix "a \t( b )".toList = ["a".toList, "(".toList, "b".toList] ∧
    converter.toPostfixStrict "a \t( b".toList = .ok ["a".toList, "(".toList, "b".toList] := by
  decide +kernel

end Converter
end BoolQuery
