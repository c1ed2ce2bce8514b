import BoolQuery.Proofs.Postfix.Defects

/-!
# What balanced token lists mean

`Denotes` gives every balanced token list its result by recursion on the tokens outside all groups,
whether or not the list follows the grammar: the list is cut at its last `OR`, else at its last
`AND`, else at its first `NOT`, and else it is a sequence of terms and groups. The theorems on
`slots` show that a run on the stack obeys each of these rules, and `denotes_iff_convertTokens` that
conversion computes exactly this recursion.
-/

namespace BoolQuery

open Parentheses

/-- The result of a balanced token list with terms written by `writeTerm`. A part of a list has a
result only if it is balanced, so the operator at which a list is cut lies outside all groups. -/
inductive Denotes (writeTerm : Text → Text) : List PlacedToken → List Text → Prop where
  | disjunction {left right placed leftOutput rightOutput}
      (kind : placed.token = .operator .or)
      (last : .operator .or ∉ outside right)
      (leftDenotes : Denotes writeTerm left leftOutput)
      (rightDenotes : Denotes writeTerm right rightOutput) :
      Denotes writeTerm (left ++ placed :: right) (leftOutput ++ rightOutput ++ ["OR".toList])
  | conjunction {left right placed leftOutput rightOutput}
      (kind : placed.token = .operator .and)
      (noDisjunction : .operator .or ∉ outside (left ++ placed :: right))
      (last : .operator .and ∉ outside right)
      (leftDenotes : Denotes writeTerm left leftOutput)
      (rightDenotes : Denotes writeTerm right rightOutput) :
      Denotes writeTerm (left ++ placed :: right) (leftOutput ++ rightOutput ++ ["AND".toList])
  | negation {left right placed leftOutput rightOutput}
      (kind : placed.token = .operator .not)
      (noDisjunction : .operator .or ∉ outside (left ++ placed :: right))
      (noConjunction : .operator .and ∉ outside (left ++ placed :: right))
      (first : .operator .not ∉ outside left)
      (leftDenotes : Denotes writeTerm left leftOutput)
      (rightDenotes : Denotes writeTerm right rightOutput) :
      Denotes writeTerm (left ++ placed :: right) (leftOutput ++ rightOutput ++ ["NOT".toList])
  | nil : Denotes writeTerm [] []
  | term {placed text rest output}
      (kind : placed.token = .term text)
      (noOperator : ∀ op, .operator op ∉ outside (placed :: rest))
      (restDenotes : Denotes writeTerm rest output) :
      Denotes writeTerm (placed :: rest) (writeTerm text :: output)
  | group {opening inner closing rest innerOutput output}
      (opens : opening.token = .openParen) (closes : closing.token = .closeParen)
      (noOperator : ∀ op, .operator op ∉ outside (opening :: (inner ++ closing :: rest)))
      (innerDenotes : Denotes writeTerm inner innerOutput)
      (restDenotes : Denotes writeTerm rest output) :
      Denotes writeTerm (opening :: (inner ++ closing :: rest)) (innerOutput ++ output)

namespace Conversion

variable {left right inner rest : List PlacedToken} {placed opening closing : PlacedToken}

/-- A binary operator applies to both sides if everything outside groups binds at least as tightly
on the left and more tightly on the right. -/
theorem slots_binary {op : Operator} (kind : placed.token = .operator op)
    (binary : op.isUnary = false) (leftBalanced : Balanced left) (rightBalanced : Balanced right)
    (leftTighter : ∀ other, .operator other ∈ outside left → op.precedence ≤ other.precedence)
    (rightTighter : ∀ other, .operator other ∈ outside right → other.isUnary = false →
      op.precedence < other.precedence) :
    (ofTokens (left ++ placed :: right)).slots =
      (ofTokens left).slots ++ (ofTokens right).slots ++ [.operator op] := by
  obtain ⟨_, operators, waiting⟩ := Progress.run_balanced leftBalanced
  have tighter : ∀ top ∈ operators, op.precedence ≤ top.precedence := by
    intro top member
    have entry : Pending.operator top ∈ (Progress.run [] left).stack := by
      rw [waiting]
      exact List.mem_map_of_mem member
    rcases Progress.mem_run_stack_of_balanced leftBalanced [] entry with below | ⟨_, same, occurs⟩
    · simp at below
    · cases same
      exact leftTighter top occurs
  have reads := Progress.Reads.binary kind binary operators [] tighter trivial
  rw [List.append_nil, ← waiting] at reads
  have shielded : ∀ token ∈ outside right, Progress.Shielded [.operator op] token := by
    intro token occurs other same arity
    subst same
    exact rightTighter other occurs arity
  have above := Progress.run_onTopOf_of_balanced rightBalanced shielded []
  rw [List.nil_append] at above
  rw [slots_ofTokens, slots_ofTokens, slots_ofTokens, Progress.run_append, reads.run_cons, above]
  simp [Progress.drained, Progress.followedBy, Progress.onTopOf, waiting, Pending.slot]

/-- A negation applies to what follows if no operator waits before it and no binary operator follows
outside groups. -/
theorem slots_negation {op : Operator} (kind : placed.token = .operator op)
    (unary : op.isUnary = true) (leftBalanced : Balanced left) (rightBalanced : Balanced right)
    (leftPlain : ∀ other, .operator other ∉ outside left)
    (rightUnary : ∀ other, .operator other ∈ outside right → other.isUnary = true) :
    (ofTokens (left ++ placed :: right)).slots =
      (ofTokens left).slots ++ (ofTokens right).slots ++ [.operator op] := by
  have empty : (Progress.run [] left).stack = [] := by
    apply List.eq_nil_iff_forall_not_mem.mpr
    intro entry member
    rcases Progress.mem_run_stack_of_balanced leftBalanced [] member with below | ⟨other, _, occurs⟩
    · simp at below
    · exact leftPlain other occurs
  have shielded : ∀ token ∈ outside right, Progress.Shielded [.operator op] token := by
    intro token occurs other same arity
    subst same
    rw [rightUnary other occurs] at arity
    cases arity
  have above := Progress.run_onTopOf_of_balanced rightBalanced shielded []
  rw [List.nil_append] at above
  have reads : Progress.Reads [] placed _ := .unary kind unary
  rw [slots_ofTokens, slots_ofTokens, slots_ofTokens, Progress.run_append, empty, reads.run_cons,
    above]
  simp [Progress.drained, Progress.followedBy, Progress.onTopOf, empty, Pending.slot]

/-- What can be cut into the slots of two parts and an operator is written like these. -/
theorem write_of_slots_eq (writeTerm : Text → Text) {tokens : List PlacedToken} {op : Operator}
    (cut : (ofTokens tokens).slots =
      (ofTokens left).slots ++ (ofTokens right).slots ++ [.operator op]) :
    (ofTokens tokens).write writeTerm =
      (ofTokens left).write writeTerm ++ (ofTokens right).write writeTerm ++ [op.symbol] := by
  rw [write, cut, List.map_append, List.map_append]
  rfl

/-- A leading term is written first, whatever follows. -/
theorem slots_term {text : Text} (kind : placed.token = .term text) :
    (ofTokens (placed :: rest)).slots = .term text :: (ofTokens rest).slots := by
  rw [slots_ofTokens, (Progress.Reads.term kind).run_cons, Progress.drained_followedBy]
  rfl

/-- A leading group is written first, as if it stood alone, whatever follows. -/
theorem slots_group (opens : opening.token = .openParen) (innerBalanced : Balanced inner)
    (closes : closing.token = .closeParen) :
    (ofTokens (opening :: (inner ++ closing :: rest))).slots =
      (ofTokens inner).slots ++ (ofTokens rest).slots := by
  rw [slots_ofTokens, Progress.run_group [] opens innerBalanced closes, Progress.drained_followedBy]
  rfl

/-- A term in front is written first. -/
theorem write_term (writeTerm : Text → Text) {text : Text} (kind : placed.token = .term text) :
    (ofTokens (placed :: rest)).write writeTerm =
      writeTerm text :: (ofTokens rest).write writeTerm := by
  rw [write, slots_term kind]
  rfl

/-- A balanced group in front is written first, as if it stood alone. -/
theorem write_group (writeTerm : Text → Text) (opens : opening.token = .openParen)
    (innerBalanced : Balanced inner) (closes : closing.token = .closeParen) :
    (ofTokens (opening :: (inner ++ closing :: rest))).write writeTerm =
      (ofTokens inner).write writeTerm ++ (ofTokens rest).write writeTerm := by
  rw [write, slots_group opens innerBalanced closes, List.map_append]
  rfl

end Conversion

namespace Denotes

variable {writeTerm : Text → Text} {tokens : List PlacedToken} {output : List Text}

/-- Only balanced lists have a result. -/
theorem balanced (denotes : Denotes writeTerm tokens output) : Balanced tokens := by
  induction denotes with
  | disjunction kind _ _ _ leftBalanced rightBalanced
  | conjunction kind _ _ _ _ leftBalanced rightBalanced
  | negation kind _ _ _ _ _ leftBalanced rightBalanced =>
      exact leftBalanced.append (.single (by rw [kind]; rfl) rightBalanced)
  | nil => exact .nil
  | term kind _ _ restBalanced => exact .single (by rw [kind]; rfl) restBalanced
  | group opens closes _ _ _ innerBalanced restBalanced =>
      exact .group opens innerBalanced closes restBalanced

/-- An operator behind a balanced list lies outside all groups. -/
theorem outside_append_operator {left right : List PlacedToken} {placed : PlacedToken}
    {op : Operator} (leftBalanced : Balanced left) (kind : placed.token = .operator op) :
    outside (left ++ placed :: right) = outside left ++ .operator op :: outside right := by
  rw [leftBalanced.outside_append, outside_single (by rw [kind]; rfl), kind]

/-- Conversion obeys every rule. -/
theorem write_slots (denotes : Denotes writeTerm tokens output) :
    (Conversion.ofTokens tokens).write writeTerm = output := by
  induction denotes with
  | @disjunction left right placed _ _ kind last leftDenotes rightDenotes leftSame rightSame =>
      -- Nothing on its left binds less tightly than the `OR`, and all on its right binds more.
      have cut := Conversion.slots_binary kind rfl leftDenotes.balanced rightDenotes.balanced
        (fun other _ => by cases other <;> decide)
        (fun other occurs arity => by
          cases other with
          | not => cases arity
          | and => decide
          | or => exact absurd occurs last)
      rw [Conversion.write_of_slots_eq writeTerm cut, leftSame, rightSame]
      rfl
  | @conjunction left right placed _ _ kind noDisjunction last leftDenotes rightDenotes leftSame
      rightSame =>
      rw [outside_append_operator leftDenotes.balanced kind] at noDisjunction
      have cut := Conversion.slots_binary kind rfl leftDenotes.balanced rightDenotes.balanced
        (fun other occurs => by
          cases other with
          | or => exact absurd (List.mem_append_left _ occurs) noDisjunction
          | _ => decide)
        (fun other occurs arity => by
          cases other with
          | not => cases arity
          | and => exact absurd occurs last
          | or => exact absurd (by simp [occurs]) noDisjunction)
      rw [Conversion.write_of_slots_eq writeTerm cut, leftSame, rightSame]
      rfl
  | @negation left right placed _ _ kind noDisjunction noConjunction first leftDenotes rightDenotes
      leftSame rightSame =>
      rw [outside_append_operator leftDenotes.balanced kind] at noDisjunction noConjunction
      -- No operator waits before the first `NOT`, and no binary one behind it flushes it.
      have cut := Conversion.slots_negation kind rfl leftDenotes.balanced rightDenotes.balanced
        (fun other occurs => by
          cases other with
          | not => exact first occurs
          | and => exact noConjunction (List.mem_append_left _ occurs)
          | or => exact noDisjunction (List.mem_append_left _ occurs))
        (fun other occurs => by
          cases other with
          | not => rfl
          | and => exact absurd (by simp [occurs]) noConjunction
          | or => exact absurd (by simp [occurs]) noDisjunction)
      rw [Conversion.write_of_slots_eq writeTerm cut, leftSame, rightSame]
      rfl
  | nil => rfl
  | term kind _ _ restSame =>
      rw [Conversion.write_term writeTerm kind, restSame]
  | group opens closes _ innerDenotes _ innerSame restSame =>
      rw [Conversion.write_group writeTerm opens innerDenotes.balanced closes, innerSame, restSame]

/-- A list without operators outside groups has a result if all shorter lists have one. -/
theorem exists_of_noOperator (balanced : Balanced tokens)
    (noOperator : ∀ op, .operator op ∉ outside tokens)
    (shorter : ∀ part : List PlacedToken, part.length < tokens.length → Balanced part →
      ∃ output, Denotes writeTerm part output) :
    ∃ output, Denotes writeTerm tokens output := by
  cases balanced with
  | nil => exact ⟨[], .nil⟩
  | @single placed rest plain restBalanced =>
      obtain ⟨output, restDenotes⟩ := shorter rest (by simp) restBalanced
      cases kind : placed.token with
      | term text => exact ⟨_, .term kind noOperator restDenotes⟩
      | operator op => exact absurd (by simp [outside_single plain, kind]) (noOperator op)
      | openParen | closeParen => simp [kind, Token.isParen] at plain
  | @group opening inner closing rest opens innerBalanced closes restBalanced =>
      have length : (opening :: (inner ++ closing :: rest)).length =
          inner.length + rest.length + 2 := by
        rw [List.length_cons, List.length_append, List.length_cons]
        omega
      obtain ⟨innerOutput, innerDenotes⟩ := shorter inner (by omega) innerBalanced
      obtain ⟨output, restDenotes⟩ := shorter rest (by omega) restBalanced
      exact ⟨_, .group opens closes noOperator innerDenotes restDenotes⟩

/-- Every balanced list has a result. -/
theorem exists_of_balanced (writeTerm : Text → Text) (balanced : Balanced tokens) :
    ∃ output, Denotes writeTerm tokens output := by
  -- The rules lead to shorter lists only.
  induction size : tokens.length using Nat.strongRecOn generalizing tokens with
  | ind length inductionHypothesis =>
      subst size
      have shorter : ∀ part : List PlacedToken, part.length < tokens.length → Balanced part →
          ∃ output, Denotes writeTerm part output :=
        fun part less partBalanced => inductionHypothesis part.length less partBalanced rfl
      have sides : ∀ left placed right, tokens = left ++ placed :: right → Balanced left →
          Balanced right → ∃ leftOutput rightOutput, Denotes writeTerm left leftOutput ∧
            Denotes writeTerm right rightOutput := by
        intro left placed right cut leftBalanced rightBalanced
        have length : tokens.length = left.length + right.length + 1 := by
          rw [cut, List.length_append, List.length_cons]
          omega
        obtain ⟨leftOutput, leftDenotes⟩ := shorter left (by omega) leftBalanced
        obtain ⟨rightOutput, rightDenotes⟩ := shorter right (by omega) rightBalanced
        exact ⟨leftOutput, rightOutput, leftDenotes, rightDenotes⟩
      by_cases disjunctive : .operator .or ∈ outside tokens
      · obtain ⟨left, placed, right, rfl, kind, leftBalanced, rightBalanced, last⟩ :=
          balanced.exists_last disjunctive
        obtain ⟨_, _, leftDenotes, rightDenotes⟩ := sides _ _ _ rfl leftBalanced rightBalanced
        exact ⟨_, .disjunction kind last leftDenotes rightDenotes⟩
      by_cases conjunctive : .operator .and ∈ outside tokens
      · obtain ⟨left, placed, right, rfl, kind, leftBalanced, rightBalanced, last⟩ :=
          balanced.exists_last conjunctive
        obtain ⟨_, _, leftDenotes, rightDenotes⟩ := sides _ _ _ rfl leftBalanced rightBalanced
        exact ⟨_, .conjunction kind disjunctive last leftDenotes rightDenotes⟩
      by_cases negative : .operator .not ∈ outside tokens
      · obtain ⟨left, placed, right, rfl, kind, leftBalanced, rightBalanced, first⟩ :=
          balanced.exists_first negative
        obtain ⟨_, _, leftDenotes, rightDenotes⟩ := sides _ _ _ rfl leftBalanced rightBalanced
        exact ⟨_, .negation kind disjunctive conjunctive first leftDenotes rightDenotes⟩
      have noOperator : ∀ op, .operator op ∉ outside tokens := by
        intro op
        cases op <;> assumption
      exact exists_of_noOperator balanced noOperator shorter

end Denotes

/-- Conversion gives a token list whose parentheses all have partners exactly the result of the
recursion, and the recursion gives no other list a result. -/
theorem denotes_iff_convertTokens (converter : Converter) (tokens : List PlacedToken)
    (output : List Text) :
    Denotes converter.writeTerm tokens output ↔
      unmatched tokens = [] ∧ converter.convertTokens false tokens = .ok output := by
  rw [converter.convertTokens_lenient, Except.ok.injEq, unmatched_eq_nil_iff]
  constructor
  · intro denotes
    exact ⟨denotes.balanced, denotes.write_slots⟩
  · rintro ⟨balanced, same⟩
    obtain ⟨found, denotes⟩ := Denotes.exists_of_balanced converter.writeTerm balanced
    have result : found = output := denotes.write_slots.symm.trans same
    rwa [result] at denotes

end BoolQuery
