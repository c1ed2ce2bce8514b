import BoolQuery.Proofs.Postfix.Groups
import Mathlib.Data.List.Chain

/-!
# Layers of the stack

The open groups cut a stack into layers of operators. An operator gets on top of another one only if
it is unary or binds more tightly, which every token preserves (`Reads.isChain`). From bottom to top
a layer therefore holds at most one disjunction, then at most one conjunction, then negations
(`climbs_of_pairwise`), and what leaves the stack in one go, topmost entry first, never binds more
tightly than what left before (`descends_of_isChain`). The groups between the layers are the
parentheses that are open so far. `run_layers` says this of every point of a run.
-/

namespace BoolQuery

open Parentheses

namespace Operator

/-- From bottom to top at most one disjunction, then at most one conjunction, then negations. -/
def Climbs (operators : List Operator) : Prop :=
  ∃ disjunctions conjunctions negations, disjunctions ≤ 1 ∧ conjunctions ≤ 1 ∧
    operators = List.replicate disjunctions .or ++
      (List.replicate conjunctions .and ++ List.replicate negations .not)

/-- An operator that may wait on top of another one. -/
def RestsOn (upper lower : Operator) : Prop :=
  upper.isUnary = true ∨ lower.precedence < upper.precedence

/-- What rests on an operator binds at least as tightly. -/
theorem RestsOn.precedence_le {upper lower : Operator} (rests : upper.RestsOn lower) :
    lower.precedence ≤ upper.precedence := by
  rcases rests with unary | tighter
  · -- Nothing binds more tightly than a unary operator.
    cases upper with
    | not => cases lower <;> decide
    | and | or => cases unary
  · exact Nat.le_of_lt tighter

/-- An operator also rests on what lies deeper than the one below it. -/
theorem RestsOn.trans {top middle bottom : Operator} (upper : top.RestsOn middle)
    (lower : middle.RestsOn bottom) : top.RestsOn bottom :=
  upper.imp_right fun tighter => Nat.lt_of_le_of_lt lower.precedence_le tighter

instance : Trans RestsOn RestsOn RestsOn := ⟨RestsOn.trans⟩

/-- A waiting `OR` is always the lowest operator of its layer. -/
theorem not_restsOn_or (lower : Operator) : ¬RestsOn .or lower := by
  rintro (unary | tighter)
  · cases unary
  · cases lower <;> exact absurd tighter (by decide)

/-- A waiting `AND` rests on nothing but an `OR`. -/
theorem eq_or_of_restsOn_and {lower : Operator} (rests : RestsOn .and lower) : lower = .or := by
  rcases rests with unary | tighter
  · cases unary
  · cases lower with
    | or => rfl
    | and | not => exact absurd tighter (by decide)

/-- Operators each of which rests on all below it are at most one `OR`, then at most one `AND`, then
any number of `NOT`s. -/
theorem climbs_of_pairwise {operators : List Operator}
    (rests : operators.Pairwise fun lower upper => upper.RestsOn lower) : Climbs operators := by
  induction operators with
  | nil => exact ⟨0, 0, 0, Nat.zero_le 1, Nat.zero_le 1, rfl⟩
  | cons bottom others inductionHypothesis =>
      obtain ⟨above, later⟩ := List.pairwise_cons.mp rests
      obtain ⟨disjunctions, conjunctions, negations, _, oneAnd, rfl⟩ := inductionHypothesis later
      have noDisjunction : disjunctions = 0 := by
        by_contra occurs
        exact not_restsOn_or bottom (above .or (by simp [occurs]))
      have noConjunction : bottom ≠ .or → conjunctions = 0 := by
        intro different
        by_contra occurs
        exact different (eq_or_of_restsOn_and (above .and (by simp [occurs])))
      subst noDisjunction
      cases bottom with
      | or => exact ⟨1, conjunctions, negations, Nat.le_refl 1, oneAnd, rfl⟩
      | and =>
          rw [noConjunction nofun]
          exact ⟨0, 1, negations, Nat.zero_le 1, Nat.le_refl 1, rfl⟩
      | not =>
          rw [noConjunction nofun]
          exact ⟨0, 0, negations + 1, Nat.zero_le 1, Nat.zero_le 1, rfl⟩

end Operator

/-- Of operators written next to each other, none binds more tightly than one before it. -/
def Slot.Descends (slots : List Slot) : Prop :=
  ∀ (before : List Slot) (operators : List Operator) (after : List Slot),
    slots = before ++ operators.map .operator ++ after →
      operators.Pairwise fun earlier later => later.precedence ≤ earlier.precedence

/-- A term alone has no operators that could be out of order. -/
theorem Slot.descends_term (text : Text) : Descends [.term text] := by
  intro before operators after cut
  have noOperator : operators = [] := by
    refine List.eq_nil_iff_forall_not_mem.mpr fun op member => ?_
    have listed : Slot.operator op ∈ before ++ operators.map .operator ++ after :=
      List.mem_append_left _ (List.mem_append_right _ (List.mem_map_of_mem member))
    rw [← cut] at listed
    cases List.mem_singleton.mp listed
  rw [noOperator]
  exact .nil

namespace Pending

/-- An entry that may lie on top of another one. Only operators on operators are restricted. -/
def RestsOn : Pending → Pending → Prop
  | .operator upper, .operator lower => upper.RestsOn lower
  | .group _, _ | .operator _, .group _ => True

/-- Where flushing for an operator stops, this operator may rest on the top of the stack. -/
theorem Stops.restsOn {op : Operator} {stack : List Pending} (stops : Stops op stack) :
    ∀ lower ∈ stack.head?, RestsOn (.operator op) lower := by
  cases stack with
  | nil => simp
  | cons entry stack =>
      simp only [List.head?_cons, Option.mem_def, Option.some.injEq, forall_eq']
      cases entry with
      | operator top => exact .inr stops
      | group offset => trivial

/-- Entries that leave operators as slots are these operators. -/
theorem eq_operators_of_map_slot {entries : List Pending} {operators : List Operator}
    (same : entries.map slot = operators.map .operator) : entries = operators.map .operator := by
  induction entries generalizing operators with
  | nil =>
      rw [List.map_nil, eq_comm, List.map_eq_nil_iff] at same
      rw [same, List.map_nil]
  | cons entry entries inductionHypothesis =>
      cases operators with
      | nil => cases same
      | cons op operators =>
          rw [List.map_cons, List.map_cons, List.cons.injEq] at same
          rw [inductionHypothesis same.2, List.map_cons]
          cases entry with
          | operator other => rw [Slot.operator.inj same.1]
          | group offset => cases same.1

variable {stack : List Pending}

/-- Operators that rest on their neighbours rest on all operators below. -/
theorem pairwise_of_isChain {operators : List Operator}
    (chain : (operators.map operator).IsChain RestsOn) : operators.Pairwise Operator.RestsOn := by
  have operatorChain : operators.IsChain Operator.RestsOn := (List.isChain_map operator).mp chain
  exact operatorChain.pairwise

/-- What leaves the stack in one go, topmost entry first, never binds more tightly than what left
before. -/
theorem descends_of_isChain (chain : stack.IsChain RestsOn) : Slot.Descends (stack.map slot) := by
  intro before operators after cut
  obtain ⟨upper, below, rfl, upperCut, _⟩ := List.map_eq_append_iff.mp cut
  obtain ⟨above, stretch, rfl, _, isStretch⟩ := List.map_eq_append_iff.mp upperCut
  rw [eq_operators_of_map_slot isStretch] at chain
  have rests := pairwise_of_isChain chain.left_of_append.right_of_append
  exact rests.imp Operator.RestsOn.precedence_le

/-- An open group and the operators that wait above it, from bottom to top. -/
structure Layer where
  offset : Nat
  operators : List Operator

/-- The entries of a layer from bottom to top. -/
def Layer.entries (layer : Layer) : List Pending :=
  .group layer.offset :: layer.operators.map .operator

/-- A stack from bottom to top: operators outside all groups and then one layer for each group. -/
structure Layered (stack : List Pending) (ground : List Operator) (layers : List Layer) :
    Prop where
  built : stack.reverse = ground.map .operator ++ layers.flatMap Layer.entries
  groundClimbs : Operator.Climbs ground
  layersClimb : ∀ layer ∈ layers, Operator.Climbs layer.operators

/-- A layer of operators, read from bottom to top, climbs. -/
theorem climbs_of_isChain {operators : List Operator}
    (chain : (operators.map operator).IsChain RestsOn) : Operator.Climbs operators.reverse :=
  Operator.climbs_of_pairwise (List.pairwise_reverse.mpr (pairwise_of_isChain chain))

/-- A stack whose entries rest on their neighbours is cut into layers at its groups. -/
theorem exists_layered (chain : stack.IsChain RestsOn) :
    ∃ ground layers, Layered stack ground layers := by
  -- Below its topmost group a stack is a shorter one.
  induction size : stack.length using Nat.strongRecOn generalizing stack with
  | ind length inductionHypothesis =>
      rcases operators_or_group stack with ⟨operators, rfl⟩ | ⟨operators, offset, below, rfl⟩
      · exact ⟨operators.reverse, [], by simp, climbs_of_isChain chain, by simp⟩
      · have belowChain := (List.isChain_cons.mp chain.right_of_append).2
        have shorter : below.length < length := by
          rw [← size, List.length_append, List.length_cons]
          omega
        obtain ⟨ground, layers, built, groundClimbs, layersClimb⟩ :=
          inductionHypothesis below.length shorter belowChain rfl
        refine ⟨ground, layers ++ [⟨offset, operators.reverse⟩], ?_, groundClimbs, ?_⟩
        · simp [built, Layer.entries]
        · refine List.forall_mem_append.mpr ⟨layersClimb, List.forall_mem_singleton.mpr ?_⟩
          exact climbs_of_isChain chain.left_of_append

end Pending

namespace Progress

open Pending

/-- The groups of a stack that is turned over are its groups in the opposite order. -/
theorem openOffsets_reverse (stack : List Pending) :
    openOffsets stack.reverse = (openOffsets stack).reverse :=
  List.filterMap_reverse

/-- Each layer stands on one group, at the offset that it names. -/
theorem openOffsets_entries (layers : List Layer) :
    openOffsets (layers.flatMap Layer.entries) = layers.map (·.offset) := by
  induction layers with
  | nil => rfl
  | cons layer layers inductionHypothesis =>
      rw [List.flatMap_cons, Layer.entries, List.cons_append, openOffsets_group,
        openOffsets_operators_append, inductionHypothesis, List.map_cons]

/-- The groups between the layers of a stack, from bottom to top, are those open on it. -/
theorem offsets_of_layered {stack : List Pending} {ground : List Operator} {layers : List Layer}
    (layered : Layered stack ground layers) :
    layers.map (·.offset) = (openOffsets stack).reverse := by
  rw [← openOffsets_reverse, layered.built, openOffsets_operators_append, openOffsets_entries]

section Steps

variable {stack : List Pending} {placed : PlacedToken} {progress : Progress}

/-- No token puts an entry where it may not lie. -/
theorem Reads.isChain (reads : Reads stack placed progress)
    (chain : stack.IsChain Pending.RestsOn) : progress.stack.IsChain Pending.RestsOn := by
  cases reads with
  | term kind => exact chain
  | opens kind => exact List.isChain_cons.mpr ⟨fun _ _ => trivial, chain⟩
  | closes kind operators offset below => exact (List.isChain_cons.mp chain.right_of_append).2
  | stray kind operators => exact .nil
  | unary kind unary =>
      refine List.isChain_cons.mpr ⟨fun lower _ => ?_, chain⟩
      cases lower with
      | operator lower => exact .inl unary
      | group offset => trivial
  | binary kind binary popped remaining tighter stops =>
      exact List.isChain_cons.mpr ⟨stops.restsOn, chain.right_of_append⟩

/-- A token writes a term or what it takes off the top of the stack. -/
theorem Reads.output_cases (reads : Reads stack placed progress) :
    (∃ text, progress.output = [.term text]) ∨
      ∃ written remaining, stack = written ++ remaining ∧ progress.output = written.map slot := by
  cases reads with
  | term kind => exact .inl ⟨_, rfl⟩
  | opens kind | unary kind _ => exact .inr ⟨[], stack, rfl, rfl⟩
  | closes kind operators offset below =>
      exact .inr ⟨operators.map .operator, .group offset :: below, rfl, by simp [slot]⟩
  | stray kind operators => exact .inr ⟨operators.map .operator, [], by simp, by simp [slot]⟩
  | binary kind _ popped remaining _ _ =>
      exact .inr ⟨popped.map .operator, remaining, rfl, by simp [slot]⟩

/-- What a step moves to the output descends in precedence, since it comes off a layered stack from
the top. -/
theorem Reads.descends (reads : Reads stack placed progress)
    (chain : stack.IsChain Pending.RestsOn) : Slot.Descends progress.output := by
  rcases reads.output_cases with ⟨text, isTerm⟩ | ⟨written, remaining, rfl, output⟩
  · rw [isTerm]
    exact Slot.descends_term text
  · rw [output]
    exact descends_of_isChain chain.left_of_append

end Steps

/-- Every run keeps the stack layered, by one step after the other. -/
theorem run_isChain {stack : List Pending} (chain : stack.IsChain Pending.RestsOn)
    (tokens : List PlacedToken) : (run stack tokens).stack.IsChain Pending.RestsOn := by
  induction tokens generalizing stack with
  | nil => exact chain
  | cons placed tokens inductionHypothesis =>
      obtain ⟨first, reads⟩ := exists_reads stack placed
      rw [reads.run_cons]
      exact inductionHypothesis (reads.isChain chain)

/-- At any point of a run the stack has layers. From bottom to top, its groups are the opening
parentheses read so far that have no partner yet, in order, and the operators before, between and
behind them are at most one disjunction, then at most one conjunction, then negations. So whatever
token comes next, and also if the stack is written at the end of the query, of the operators that
are written next to each other none binds more tightly than one before it. -/
theorem run_layers (front back : List PlacedToken) :
    let stack := (run [] front).stack
    run [] (front ++ back) = (run [] front).followedBy (run stack back) ∧
    (∃ ground layers, Layered stack ground layers ∧
      layers.map (·.offset) = ((unmatched front).filter (·.token = .openParen)).map (·.offset)) ∧
    (∀ placed, Slot.Descends (step stack placed).output) ∧ Slot.Descends (stack.map slot) := by
  intro stack
  have chain : stack.IsChain Pending.RestsOn := run_isChain .nil front
  obtain ⟨ground, layers, layered⟩ := exists_layered chain
  refine ⟨run_append [] front back, ⟨ground, layers, layered, ?_⟩, fun placed => ?_,
    descends_of_isChain chain⟩
  · rw [offsets_of_layered layered, (filter_unmatched front).2]
  · exact (step_reads stack placed).descends chain

/-- After a stray parenthesis, two groups are open with operators outside and within both. -/
theorem run_layers_of_stray_and_open :
    let tokens := Token.ofQuery false "x ) OR y AND NOT ( z OR w AND ( NOT NOT".toList
    (∃ ground layers, Layered (run [] tokens).stack ground layers ∧
      layers.map (·.offset) = [17, 30]) ∧
    Slot.Descends ((run [] tokens).stack.map slot) := by
  intro tokens
  obtain ⟨_, ⟨ground, layers, layered, offsets⟩, _, descends⟩ := run_layers tokens []
  exact ⟨⟨ground, layers, layered, offsets.trans (by decide +kernel)⟩, descends⟩

end Progress
end BoolQuery
