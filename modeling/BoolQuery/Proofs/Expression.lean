import BoolQuery.Proofs.Postfix.Defects
import BoolQuery.Proofs.Postfix.Denotation
import BoolQuery.Proofs.Writing

/-!
# Expressions

The grammar of well-formed queries. `Derives` relates an expression to the token lists that stand
for it: `OR` binds loosest, then `AND`, then `NOT`, both binary operators associate to the left, and
groups may enclose anything. A derivation is a special case of the recursion that `Denotes`
describes, so `toPostfix_written` concludes that a query which writes an expression is converted to
its post-order traversal, in either mode.
-/

namespace BoolQuery

open Parentheses

/-- An expression of the query language. -/
inductive Expression where
  | word (text : Text)
  | not (operand : Expression)
  | and (left right : Expression)
  | or (left right : Expression)
deriving DecidableEq, Repr

namespace Expression

/-- The post-order traversal: operands from left to right, then their operator. -/
def postOrder (writeWord : Text → Text) : Expression → List Text
  | word text => [writeWord text]
  | not operand => operand.postOrder writeWord ++ ["NOT".toList]
  | and left right => left.postOrder writeWord ++ right.postOrder writeWord ++ ["AND".toList]
  | or left right => left.postOrder writeWord ++ right.postOrder writeWord ++ ["OR".toList]

/-- The levels of the grammar, loosest first. -/
inductive Level where
  | disjunction
  | conjunction
  | negation
  | atom
deriving DecidableEq, Repr

/-- How tightly operators outside groups bind at least. -/
def Level.precedence : Level → Nat
  | .disjunction => Operator.or.precedence
  | .conjunction => Operator.and.precedence
  | .negation => Operator.not.precedence
  | .atom => Operator.not.precedence + 1

/-- The token lists that stand for an expression at a level of the grammar. -/
inductive Derives (anyCase : Bool) : Level → Expression → List Token → Prop where
  | or {left right leftTokens rightTokens}
      (leftDerives : Derives anyCase .disjunction left leftTokens)
      (rightDerives : Derives anyCase .conjunction right rightTokens) :
      Derives anyCase .disjunction (.or left right)
        (leftTokens ++ .operator .or :: rightTokens)
  | conjunction {expression tokens} (derives : Derives anyCase .conjunction expression tokens) :
      Derives anyCase .disjunction expression tokens
  | and {left right leftTokens rightTokens}
      (leftDerives : Derives anyCase .conjunction left leftTokens)
      (rightDerives : Derives anyCase .negation right rightTokens) :
      Derives anyCase .conjunction (.and left right)
        (leftTokens ++ .operator .and :: rightTokens)
  | negation {expression tokens} (derives : Derives anyCase .negation expression tokens) :
      Derives anyCase .conjunction expression tokens
  | not {operand tokens} (derives : Derives anyCase .negation operand tokens) :
      Derives anyCase .negation (.not operand) (.operator .not :: tokens)
  | atom {expression tokens} (derives : Derives anyCase .atom expression tokens) :
      Derives anyCase .negation expression tokens
  | word {text} (word : IsWord anyCase text) : Derives anyCase .atom (.word text) [.term text]
  | group {expression tokens} (derives : Derives anyCase .disjunction expression tokens) :
      Derives anyCase .atom expression (.openParen :: (tokens ++ [.closeParen]))

/-- A token list with its result and a level which all operators outside its groups respect. -/
structure DenotesAt (writeTerm : Text → Text) (level : Level) (placed : List PlacedToken)
    (output : List Text) : Prop where
  denotes : Denotes writeTerm placed output
  tight : ∀ op, .operator op ∈ outside placed → level.precedence ≤ op.precedence

namespace DenotesAt

variable {writeTerm : Text → Text} {level : Level} {left right placed : List PlacedToken}
  {operator opening closing : PlacedToken} {leftOutput rightOutput output : List Text}

/-- Looser operators do not occur outside groups. -/
theorem absent (reading : DenotesAt writeTerm level placed output) {op : Operator}
    (looser : op.precedence < level.precedence) : .operator op ∉ outside placed := by
  intro occurs
  have tighter := reading.tight op occurs
  omega

/-- What respects a level of the grammar respects every looser one. -/
theorem weaken (reading : DenotesAt writeTerm level placed output) {looser : Level}
    (weaker : looser.precedence ≤ level.precedence) :
    DenotesAt writeTerm looser placed output :=
  ⟨reading.denotes, fun op occurs => Nat.le_trans weaker (reading.tight op occurs)⟩

/-- The last `OR` outside groups is applied last. -/
theorem disjunction (leftReading : DenotesAt writeTerm .disjunction left leftOutput)
    (kind : operator.token = .operator .or)
    (rightReading : DenotesAt writeTerm .conjunction right rightOutput) :
    DenotesAt writeTerm .disjunction (left ++ operator :: right)
      (leftOutput ++ rightOutput ++ ["OR".toList]) where
  denotes := .disjunction kind (rightReading.absent (by decide)) leftReading.denotes
    rightReading.denotes
  tight := by
    intro op _
    cases op <;> decide

/-- Without an `OR` outside groups, the last `AND` is applied last. -/
theorem conjunction (leftReading : DenotesAt writeTerm .conjunction left leftOutput)
    (kind : operator.token = .operator .and)
    (rightReading : DenotesAt writeTerm .negation right rightOutput) :
    DenotesAt writeTerm .conjunction (left ++ operator :: right)
      (leftOutput ++ rightOutput ++ ["AND".toList]) := by
  have tight : ∀ op, .operator op ∈ outside (left ++ operator :: right) →
      Level.conjunction.precedence ≤ op.precedence := by
    intro op occurs
    rw [Denotes.outside_append_operator leftReading.denotes.balanced kind, List.mem_append,
      List.mem_cons] at occurs
    rcases occurs with before | ⟨⟨⟩⟩ | after
    · exact leftReading.tight op before
    · decide
    · exact (rightReading.weaken (by decide)).tight op after
  have noDisjunction : .operator .or ∉ outside (left ++ operator :: right) := by
    intro occurs
    exact absurd (tight .or occurs) (by decide)
  have denotes := Denotes.conjunction kind noDisjunction (rightReading.absent (by decide))
    leftReading.denotes rightReading.denotes
  exact ⟨denotes, tight⟩

/-- A negation is applied to what follows it, if only negations stand outside groups there. -/
theorem negation (kind : operator.token = .operator .not)
    (reading : DenotesAt writeTerm .negation placed output) :
    DenotesAt writeTerm .negation (operator :: placed) (output ++ ["NOT".toList]) := by
  have tight : ∀ op, .operator op ∈ outside (operator :: placed) →
      Level.negation.precedence ≤ op.precedence := by
    intro op occurs
    rw [outside_single (by rw [kind]; rfl), kind, List.mem_cons] at occurs
    rcases occurs with ⟨⟨⟩⟩ | after
    · decide
    · exact reading.tight op after
  have noDisjunction : .operator .or ∉ outside (operator :: placed) := by
    intro occurs
    exact absurd (tight .or occurs) (by decide)
  have noConjunction : .operator .and ∉ outside (operator :: placed) := by
    intro occurs
    exact absurd (tight .and occurs) (by decide)
  have denotes := Denotes.negation kind noDisjunction noConjunction (by simp) .nil reading.denotes
  exact ⟨denotes, tight⟩

/-- A term denotes its normal form at every level. -/
theorem term {text : Text} (kind : operator.token = .term text) :
    DenotesAt writeTerm .atom [operator] [writeTerm text] := by
  have noOperator : ∀ op, .operator op ∉ outside [operator] := by
    intro op
    rw [outside_single (by rw [kind]; rfl), kind]
    simp
  exact ⟨.term kind noOperator .nil, fun op occurs => absurd occurs (noOperator op)⟩

/-- A group respects every level, whatever operators it holds inside. -/
theorem group (opens : opening.token = .openParen) (closes : closing.token = .closeParen)
    (reading : DenotesAt writeTerm level placed output) :
    DenotesAt writeTerm .atom (opening :: (placed ++ [closing])) output := by
  have noOperator : ∀ op, .operator op ∉ outside (opening :: (placed ++ [closing])) := by
    intro op
    rw [outside_group opens reading.denotes.balanced closes]
    simp
  have denotes := Denotes.group opens closes noOperator reading.denotes .nil
  rw [List.append_nil] at denotes
  exact ⟨denotes, fun op occurs => absurd occurs (noOperator op)⟩

end DenotesAt

namespace Derives

variable {anyCase : Bool} {level : Level} {expression : Expression} {tokens : List Token}

/-- All tokens of a derivation can be written down and read again. -/
theorem legible (derives : Derives anyCase level expression tokens) :
    ∀ token ∈ tokens, token.Legible anyCase := by
  induction derives with
  | or _ _ leftLegible rightLegible | and _ _ leftLegible rightLegible =>
      exact List.forall_mem_append.mpr
        ⟨leftLegible, List.forall_mem_cons.mpr ⟨trivial, rightLegible⟩⟩
  | conjunction _ inductionHypothesis | negation _ inductionHypothesis
  | atom _ inductionHypothesis => exact inductionHypothesis
  | not _ inductionHypothesis => exact List.forall_mem_cons.mpr ⟨trivial, inductionHypothesis⟩
  | word word => exact List.forall_mem_singleton.mpr word
  | group _ inductionHypothesis =>
      have closing : ∀ token ∈ [Token.closeParen], token.Legible anyCase :=
        List.forall_mem_singleton.mpr trivial
      exact List.forall_mem_cons.mpr
        ⟨trivial, List.forall_mem_append.mpr ⟨inductionHypothesis, closing⟩⟩

/-- A derivation denotes the post-order traversal at its level. -/
theorem denotesAt {writeTerm writeWord : Text → Text}
    (agree : ∀ text, IsWord anyCase text → writeTerm text = writeWord text)
    (derives : Derives anyCase level expression tokens) {placed : List PlacedToken}
    (same : placed.map (·.token) = tokens) :
    DenotesAt writeTerm level placed (expression.postOrder writeWord) := by
  induction derives generalizing placed with
  | or _ _ leftHypothesis rightHypothesis =>
      obtain ⟨left, rest, rfl, leftSame, restSame⟩ := List.map_eq_append_iff.mp same
      obtain ⟨operator, right, rfl, kind, rightSame⟩ := List.map_eq_cons_iff.mp restSame
      exact (leftHypothesis leftSame).disjunction kind (rightHypothesis rightSame)
  | conjunction _ inductionHypothesis => exact (inductionHypothesis same).weaken (by decide)
  | and _ _ leftHypothesis rightHypothesis =>
      obtain ⟨left, rest, rfl, leftSame, restSame⟩ := List.map_eq_append_iff.mp same
      obtain ⟨operator, right, rfl, kind, rightSame⟩ := List.map_eq_cons_iff.mp restSame
      exact (leftHypothesis leftSame).conjunction kind (rightHypothesis rightSame)
  | negation _ inductionHypothesis => exact (inductionHypothesis same).weaken (by decide)
  | not _ inductionHypothesis =>
      obtain ⟨operator, operand, rfl, kind, operandSame⟩ := List.map_eq_cons_iff.mp same
      exact .negation kind (inductionHypothesis operandSame)
  | atom _ inductionHypothesis => exact (inductionHypothesis same).weaken (by decide)
  | @word text word =>
      obtain ⟨single, rest, rfl, kind, restSame⟩ := List.map_eq_cons_iff.mp same
      obtain rfl := List.map_eq_nil_iff.mp restSame
      rw [postOrder, ← agree text word]
      exact .term kind
  | group _ inductionHypothesis =>
      obtain ⟨opening, rest, rfl, opens, restSame⟩ := List.map_eq_cons_iff.mp same
      obtain ⟨inner, last, rfl, innerSame, lastSame⟩ := List.map_eq_append_iff.mp restSame
      obtain ⟨closing, after, rfl, closes, afterSame⟩ := List.map_eq_cons_iff.mp lastSame
      obtain rfl := List.map_eq_nil_iff.mp afterSame
      exact .group opens closes (inductionHypothesis innerSame)

end Derives

/-- A query that writes an expression, with any words, groups, spaces and spelling of keywords that
the grammar allows, is converted to the post-order traversal of the expression, in strict and in
lenient mode. -/
theorem toPostfix_written (converter : Converter) {expression : Expression} {tokens : List Token}
    {query : Text} (derives : Derives converter.options.anyCase .disjunction expression tokens)
    (writes : Writes converter.options.anyCase tokens query) :
    converter.toPostfixStrict query =
      .ok (expression.postOrder fun word => converter.normalize (Text.lower word)) ∧
    converter.toPostfix query =
      expression.postOrder fun word => converter.normalize (Text.lower word) := by
  have same : (converter.tokens query).map (·.token) = tokens := writes.map_token derives.legible
  have agree : ∀ text, IsWord converter.options.anyCase text →
      converter.writeTerm text = converter.normalize (Text.lower text) := by
    intro text word
    rw [Converter.writeTerm, word.trim_eq]
  have denotes := (derives.denotesAt agree same).denotes
  have lenient : converter.toPostfix query =
      expression.postOrder fun word => converter.normalize (Text.lower word) :=
    denotes.write_slots
  have filled : converter.tokens query ≠ [] := by
    intro empty
    rw [empty] at same
    exact writes.filled same.symm
  have matched := unmatched_eq_nil_iff.mpr denotes.balanced
  exact ⟨Converter.toPostfixStrict_ok_iff.mpr ⟨filled, matched, lenient.symm⟩, lenient⟩

/-- The query `not ((Foo)  oR bar) AND baz` between blank characters, with keywords in any case. -/
theorem toPostfix_written_nested :
    ∃ tokens, Derives true .disjunction
        (.and (.not (.or (.word "Foo".toList) (.word "bar".toList))) (.word "baz".toList)) tokens ∧
      Writes true tokens "\tnot ((Foo)  oR bar) AND baz ".toList ∧
      Converter.toPostfixStrict ⟨fun text => '<' :: (text ++ ['>']), ⟨true, true⟩⟩
          "\tnot ((Foo)  oR bar) AND baz ".toList =
        .ok ["<foo>".toList, "<bar>".toList, "OR".toList, "NOT".toList, "<baz>".toList,
          "AND".toList] ∧
      Converter.toPostfix ⟨fun text => '<' :: (text ++ ['>']), ⟨true, true⟩⟩
          "\tnot ((Foo)  oR bar) AND baz ".toList =
        ["<foo>".toList, "<bar>".toList, "OR".toList, "NOT".toList, "<baz>".toList,
          "AND".toList] := by
  have word : ∀ text, IsWord true text → Derives true .negation (.word text) [.term text] :=
    fun _ isWord => .atom (.word isWord)
  have foo := word "Foo".toList (by decide)
  have bar := word "bar".toList (by decide)
  have baz := word "baz".toList (by decide)
  have grouped := Derives.group (.conjunction (.negation foo))
  have either := Derives.or (.conjunction (.negation (.atom grouped))) (.negation bar)
  have derives := Derives.conjunction (.and (.negation (.not (.atom (.group either)))) baz)
  have keyword : ∀ op text, op.Spells true text → (Token.operator op).Spells true text :=
    fun _ _ spells => spells
  have term : ∀ text, (Token.term text).Spells true text := fun _ => rfl
  have opens : Token.openParen.Spells true ['('] := rfl
  have closes : Token.closeParen.Spells true [')'] := rfl
  have conjunct := Written.cons (keyword .and "AND".toList (by decide)) 1 (by decide)
    (.single (term "baz".toList))
  have disjunct := Written.cons (keyword .or "oR".toList (by decide)) 1 (by decide)
    (.cons (term "bar".toList) 0 (by decide) (.cons closes 1 (by decide) conjunct))
  have group := Written.cons opens 0 (by decide) (.cons (term "Foo".toList) 0 (by decide)
    (.cons closes 2 (by decide) disjunct))
  have written := Written.cons (keyword .not "not".toList (by decide)) 1 (by decide)
    (.cons opens 0 (by decide) group)
  have writes : Writes true _ "\tnot ((Foo)  oR bar) AND baz ".toList :=
    ⟨"\t".toList, _, " ".toList, by decide, List.forall_mem_singleton.mpr (by decide),
      List.forall_mem_singleton.mpr (by decide), written⟩
  obtain ⟨strict, lenient⟩ := toPostfix_written
    ⟨fun text => '<' :: (text ++ ['>']), ⟨true, true⟩⟩ derives writes
  exact ⟨_, derives, writes, strict, lenient⟩

end Expression
end BoolQuery
