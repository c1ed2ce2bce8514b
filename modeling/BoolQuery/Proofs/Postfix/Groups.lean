import BoolQuery.Proofs.Parentheses
import BoolQuery.Proofs.Postfix.Stack

/-!
# Groups on the stack

The groups open on the stack are the parentheses that are open so far: `run_unmatched` follows a run
token by token and ends with the parentheses without a partner, the closing ones recorded as strays
and the opening ones still on the stack. Hence a balanced stretch leaves only operators behind, and
`run_group` says that a whole group acts like a single operand: its inside is written out as if it
stood alone, whatever waits on the stack.
-/

namespace BoolQuery.Progress

open Parentheses

/-- The offsets of the groups open on a stack, innermost first. -/
def openOffsets (stack : List Pending) : List Nat :=
  stack.filterMap Pending.groupOffset?

@[simp] theorem openOffsets_nil : openOffsets [] = [] := rfl

@[simp] theorem openOffsets_operator (op : Operator) (stack : List Pending) :
    openOffsets (.operator op :: stack) = openOffsets stack := rfl

@[simp] theorem openOffsets_group (offset : Nat) (stack : List Pending) :
    openOffsets (.group offset :: stack) = offset :: openOffsets stack := rfl

/-- Operators on top of a stack open no groups. -/
@[simp] theorem openOffsets_operators_append (operators : List Operator) (stack : List Pending) :
    openOffsets (operators.map .operator ++ stack) = openOffsets stack := by
  induction operators with
  | nil => rfl
  | cons op operators inductionHypothesis => simpa using inductionHypothesis

/-- A stack of operators only has no open groups. -/
@[simp] theorem openOffsets_operators (operators : List Operator) :
    openOffsets (operators.map .operator) = [] := by
  simpa using openOffsets_operators_append operators []

/-- A stack without open groups holds operators only. -/
theorem operators_of_openOffsets_eq_nil {stack : List Pending} (none : openOffsets stack = []) :
    ∃ operators : List Operator, stack = operators.map .operator := by
  rcases Pending.operators_or_group stack with found | ⟨operators, offset, below, rfl⟩
  · exact found
  · simp at none

/-- A run leaves over the parentheses without a partner: closing ones as strays, opening ones as
groups on the stack. No closing one comes after an opening one. -/
theorem run_unmatched (stack : List Pending) (opened : List PlacedToken)
    (same : openOffsets stack = opened.map (·.offset))
    (opens : ∀ opening ∈ opened, opening.token = .openParen) (tokens : List PlacedToken) :
    ∃ strays unclosed, unmatchedFrom opened tokens = strays ++ unclosed ∧
      (∀ stray ∈ strays, stray.token = .closeParen) ∧
      (∀ opening ∈ unclosed, opening.token = .openParen) ∧
      (run stack tokens).strays = strays.map (·.offset) ∧
      (openOffsets (run stack tokens).stack).reverse = unclosed.map (·.offset) := by
  -- The groups on the stack stay those of `opened`, and these decide what a parenthesis does.
  induction tokens generalizing stack opened with
  | nil => exact ⟨[], opened.reverse, rfl, by simp, by simpa using opens, rfl, by simp [run, same]⟩
  | cons placed tokens inductionHypothesis =>
      obtain ⟨first, reads⟩ := exists_reads stack placed
      rw [reads.run_cons]
      cases reads with
      | term kind =>
          rw [unmatchedFrom_plain (by rw [kind]; rfl)]
          exact inductionHypothesis _ _ same opens
      | unary kind _ =>
          rw [unmatchedFrom_plain (by rw [kind]; rfl)]
          exact inductionHypothesis _ _ same opens
      | binary kind _ popped remaining _ _ =>
          rw [unmatchedFrom_plain (by rw [kind]; rfl)]
          exact inductionHypothesis _ _ (by simpa using same) opens
      | opens kind =>
          rw [unmatchedFrom_open kind]
          exact inductionHypothesis _ _ (by simp [same]) (List.forall_mem_cons.mpr ⟨kind, opens⟩)
      | stray kind operators =>
          -- Strays are met outside all groups, so what is left open was opened behind them.
          have outermost : opened = [] := by simpa using same
          subst outermost
          obtain ⟨strays, unclosed, parts, closing, opening, strayOffsets, openLater⟩ :=
            inductionHypothesis [] [] rfl opens
          refine ⟨placed :: strays, unclosed, ?_, List.forall_mem_cons.mpr ⟨kind, closing⟩, opening,
            ?_, openLater⟩
          · rw [unmatchedFrom_stray kind, parts, List.cons_append]
          · simp [followedBy, strayOffsets]
      | closes kind operators offset below =>
          cases opened with
          | nil => simp at same
          | cons innermost outer =>
              rw [unmatchedFrom_close kind]
              simp only [openOffsets_operators_append, openOffsets_group, List.map_cons,
                List.cons.injEq] at same
              exact inductionHypothesis _ _ same.2 (List.forall_mem_cons.mp opens).2

/-- Parentheses of one kind are all selected by this kind and none by another. -/
theorem filter_of_kind {kind : Token} {parens : List PlacedToken}
    (same : ∀ paren ∈ parens, paren.token = kind) (other : Token) :
    parens.filter (·.token = other) = if kind = other then parens else [] := by
  split
  · next equal =>
      subst equal
      exact List.filter_eq_self.mpr fun paren member => by simpa using same paren member
  · next different =>
      exact List.filter_eq_nil_iff.mpr fun paren member => by
        simpa [same paren member] using different

/-- The closing parentheses without a partner are the strays, and the opening ones are the groups
open at the end, outermost first. -/
theorem filter_unmatched (tokens : List PlacedToken) :
    ((unmatched tokens).filter (·.token = .closeParen)).map (·.offset) = (run [] tokens).strays ∧
      ((unmatched tokens).filter (·.token = .openParen)).map (·.offset) =
        (openOffsets (run [] tokens).stack).reverse := by
  obtain ⟨strays, unclosed, parts, closing, opening, strayOffsets, openLater⟩ :=
    run_unmatched [] [] rfl (by simp) tokens
  rw [unmatched, parts, List.filter_append, List.filter_append, filter_of_kind closing,
    filter_of_kind closing, filter_of_kind opening, filter_of_kind opening, strayOffsets, openLater]
  simp

/-- A run has as many strays, and leaves as many groups open, as parentheses of either kind have no
partner. -/
theorem countP_unmatched (tokens : List PlacedToken) :
    (unmatched tokens).countP (·.token = .closeParen) = (run [] tokens).strays.length ∧
      (unmatched tokens).countP (·.token = .openParen) =
        (openOffsets (run [] tokens).stack).length := by
  obtain ⟨strayOffsets, openLater⟩ := filter_unmatched tokens
  rw [List.countP_eq_length_filter, List.countP_eq_length_filter]
  constructor
  · rw [← strayOffsets, List.length_map]
  · have openLength := congrArg List.length openLater
    rwa [List.length_map, List.length_reverse] at openLength

section Balanced

variable {tokens inner rest : List PlacedToken} {opening closing : PlacedToken}

/-- A balanced stretch has no strays and leaves operators only. -/
theorem run_balanced (balanced : Balanced tokens) :
    (run [] tokens).strays = [] ∧
      ∃ operators : List Operator, (run [] tokens).stack = operators.map .operator := by
  obtain ⟨strays, unclosed, parts, _, _, strayOffsets, openLater⟩ :=
    run_unmatched [] [] rfl (by simp) tokens
  have complete : strays ++ unclosed = [] := parts.symm.trans (unmatched_eq_nil_iff.mpr balanced)
  obtain ⟨rfl, rfl⟩ := List.append_eq_nil_iff.mp complete
  exact ⟨strayOffsets, operators_of_openOffsets_eq_nil (by simpa using openLater)⟩

/-- A group is written out as if it stood alone and leaves the stack as it was. -/
theorem run_group (stack : List Pending) (opens : opening.token = .openParen)
    (innerBalanced : Balanced inner) (closes : closing.token = .closeParen) :
    run stack (opening :: (inner ++ closing :: rest)) =
      (⟨stack, (run [] inner).drained, [], (run [] inner).flushes⟩ : Progress).followedBy
        (run stack rest) := by
  obtain ⟨inside, operators, left⟩ := run_balanced innerBalanced
  have above : run (.group opening.offset :: stack) inner =
      (run [] inner).onTopOf (.group opening.offset :: stack) :=
    run_onTopOf inside fun _ _ _ _ _ => trivial
  have close := Reads.closes closes operators opening.offset stack
  rw [(Reads.opens opens).run_cons, run_append, above]
  simp only [onTopOf, left]
  rw [close.run_cons]
  simp [followedBy, drained, inside, left, Pending.slot, Function.comp_def]

/-- A balanced stretch does not notice what lies below an entry that shields from its tokens outside
all groups. -/
theorem run_onTopOf_of_balanced {bottom : List Pending} (balanced : Balanced tokens)
    (shielded : ∀ token ∈ outside tokens, Shielded bottom token) (stack : List Pending) :
    run (stack ++ bottom) tokens = (run stack tokens).onTopOf bottom := by
  induction balanced generalizing stack with
  | nil => rfl
  | @single placed rest plain _ inductionHypothesis =>
      rw [outside_single plain] at shielded
      obtain ⟨headShielded, tailShielded⟩ := List.forall_mem_cons.mp shielded
      obtain ⟨first, reads⟩ := exists_reads stack placed
      have inside : first.strays = [] := by
        cases reads with
        | stray kind _ => simp [kind, Token.isParen] at plain
        | _ => rfl
      rw [(reads.onTopOf inside headShielded).run_cons, reads.run_cons, followedBy_onTopOf,
        ← inductionHypothesis tailShielded]
      rfl
  | @group opening inner closing rest opens innerBalanced closes _ _ inductionHypothesis =>
      rw [outside_group opens innerBalanced closes] at shielded
      rw [run_group _ opens innerBalanced closes, run_group _ opens innerBalanced closes,
        inductionHypothesis shielded, followedBy_onTopOf]
      rfl

/-- What a balanced stretch leaves on the stack was there before or is one of its operators outside
all groups. -/
theorem mem_run_stack_of_balanced {entry : Pending} (balanced : Balanced tokens)
    (stack : List Pending) (member : entry ∈ (run stack tokens).stack) :
    entry ∈ stack ∨ ∃ op, entry = .operator op ∧ Token.operator op ∈ outside tokens := by
  induction balanced generalizing stack with
  | nil => exact .inl member
  | @single placed rest plain _ inductionHypothesis =>
      obtain ⟨first, reads⟩ := exists_reads stack placed
      rw [reads.run_cons] at member
      rw [outside_single plain]
      rcases inductionHypothesis first.stack member with before | ⟨op, rfl, occurs⟩
      · cases reads with
        | term kind => exact .inl before
        | opens kind => simp [kind, Token.isParen] at plain
        | stray kind _ => simp [kind, Token.isParen] at plain
        | closes kind _ _ _ => simp [kind, Token.isParen] at plain
        | unary kind _ =>
            rcases List.mem_cons.mp before with rfl | below
            · exact .inr ⟨_, rfl, by simp [kind]⟩
            · exact .inl below
        | binary kind _ popped remaining _ _ =>
            rcases List.mem_cons.mp before with rfl | below
            · exact .inr ⟨_, rfl, by simp [kind]⟩
            · exact .inl (List.mem_append_right _ below)
      · exact .inr ⟨op, rfl, List.mem_cons_of_mem _ occurs⟩
  | group opens innerBalanced closes _ _ inductionHypothesis =>
      rw [run_group _ opens innerBalanced closes] at member
      rw [outside_group opens innerBalanced closes]
      exact inductionHypothesis stack member

end Balanced

end BoolQuery.Progress
