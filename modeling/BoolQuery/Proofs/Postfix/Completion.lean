import BoolQuery.Proofs.Postfix.Accounting

/-!
# Completing malformed token lists

A token list in which parentheses lack a partner is completed by opening parentheses before it and
closing ones behind it. Conversion treats the list as if it had been completed: `run_inside` follows
a run beside the same run inside further groups, of which every stray parenthesis closes one, and
`run_closing` closes the groups that are left. Only the slots of unclosed groups tell the results
apart, and these come behind all terms.
-/

namespace BoolQuery

open Parentheses

/-- Parentheses that give a partner to every parenthesis of a token list: as many opening ones to
stand before it as it has closing ones without a partner, and as many closing ones to stand behind
it as it has opening ones without a partner. -/
structure Completes (tokens opening closing : List PlacedToken) : Prop where
  opens : ∀ paren ∈ opening, paren.token = .openParen
  closes : ∀ paren ∈ closing, paren.token = .closeParen
  strays : opening.length = (unmatched tokens).countP (·.token = .closeParen)
  unclosed : closing.length = (unmatched tokens).countP (·.token = .openParen)

namespace Progress

variable {stack : List Pending} {tokens opening closing : List PlacedToken}

/-- Opening parentheses leave their groups on the stack. -/
theorem run_opening (opens : ∀ paren ∈ opening, paren.token = .openParen) (stack : List Pending) :
    run stack opening =
      ⟨(opening.map (·.offset)).reverse.map .group ++ stack, [], [], []⟩ := by
  induction opening generalizing stack with
  | nil => rfl
  | cons paren opening inductionHypothesis =>
      obtain ⟨headOpens, tailOpens⟩ := List.forall_mem_cons.mp opens
      rw [(Reads.opens headOpens).run_cons, inductionHypothesis tailOpens]
      simp [followedBy]

/-- Groups shield what lies below from every token. -/
theorem shielded_groups (offsets : List Nat) (token : Token) :
    Shielded (offsets.map .group) token := by
  intro op _ _
  cases offsets <;> trivial

/-- Inside further groups, a run closes one of them where it had a stray parenthesis, and otherwise
does the same. -/
theorem run_inside (offsets : List Nat)
    (enough : (run stack tokens).strays.length ≤ offsets.length) :
    run (stack ++ offsets.map .group) tokens =
      ⟨(run stack tokens).stack ++ (offsets.drop (run stack tokens).strays.length).map .group,
        (run stack tokens).output, [], (run stack tokens).flushes⟩ := by
  induction tokens generalizing stack offsets with
  | nil => rfl
  | cons placed tokens inductionHypothesis =>
      obtain ⟨first, reads⟩ := exists_reads stack placed
      rw [reads.run_cons] at enough ⊢
      simp only [followedBy, List.length_append] at enough ⊢
      by_cases inside : first.strays = []
      · have above := reads.onTopOf inside (shielded_groups offsets placed.token)
        rw [inside, List.length_nil, Nat.zero_add] at enough ⊢
        rw [above.run_cons]
        simp [onTopOf, followedBy, inside, inductionHypothesis offsets enough]
      · cases reads with
        | stray kind operators =>
            -- The stray parenthesis closes the innermost of the groups around the run.
            cases offsets with
            | nil => simp at enough
            | cons offset offsets =>
                simp only [List.length_cons, List.length_nil, Nat.zero_add, Nat.add_comm 1,
                  Nat.add_le_add_iff_right] at enough
                have later := inductionHypothesis offsets enough
                rw [List.nil_append] at later
                rw [List.map_cons, (Reads.closes kind operators offset _).run_cons, later]
                simp [followedBy, Nat.add_comm 1]
        | _ => exact absurd rfl inside

/-- The slots on a stack without those of its groups are those of its operators. -/
theorem filter_slots_operators (operators : List Operator) :
    ((operators.map Pending.operator).map Pending.slot).filter (· ≠ .unclosed) =
      operators.map .operator := by
  induction operators with
  | nil => rfl
  | cons op operators inductionHypothesis => simpa [Pending.slot] using inductionHypothesis

/-- As many closing parentheses as there are groups write the stack and close all groups. -/
theorem run_closing (closes : ∀ paren ∈ closing, paren.token = .closeParen)
    (exact : closing.length = (openOffsets stack).length) :
    (run stack closing).strays = [] ∧ openOffsets (run stack closing).stack = [] ∧
      (run stack closing).drained = (stack.map Pending.slot).filter (· ≠ .unclosed) := by
  induction closing generalizing stack with
  | nil =>
      have none : openOffsets stack = [] := List.eq_nil_of_length_eq_zero exact.symm
      obtain ⟨operators, rfl⟩ := operators_of_openOffsets_eq_nil none
      refine ⟨rfl, none, ?_⟩
      rw [filter_slots_operators]
      simp [run_nil, drained, Pending.slot]
  | cons paren closing inductionHypothesis =>
      obtain ⟨headCloses, tailCloses⟩ := List.forall_mem_cons.mp closes
      rcases Pending.operators_or_group stack with
        ⟨operators, rfl⟩ | ⟨operators, offset, below, rfl⟩
      · simp at exact
      · have remaining : closing.length = (openOffsets below).length := by simpa using exact
        obtain ⟨inside, closed, written⟩ := inductionHypothesis tailCloses remaining
        rw [(Reads.closes headCloses operators offset below).run_cons, drained_followedBy, written,
          List.map_append, List.filter_append, filter_slots_operators]
        exact ⟨inside, closed, by simp [Pending.slot]⟩

/-- No token fills the slot of an unclosed group. -/
theorem unclosed_not_mem_filled (tokens : List PlacedToken) :
    Slot.unclosed ∉ tokens.filterMap (·.token.slot?) := by
  intro member
  obtain ⟨placed, _, fills⟩ := List.mem_filterMap.mp member
  cases kind : placed.token <;> simp [kind, Token.slot?] at fills

/-- A run writes no slot of an unclosed group; those come from the stack at the end. -/
theorem unclosed_not_mem_output (tokens : List PlacedToken) :
    Slot.unclosed ∉ (run [] tokens).output := fun member =>
  unclosed_not_mem_filled tokens
    ((run_perm [] tokens).subset (List.mem_append_left _ member))

/-- What comes behind the slot of an unclosed group was left on the stack. -/
theorem stack_of_drained {front back : List Slot}
    (cut : (run [] tokens).drained = front ++ .unclosed :: back) :
    ∃ before, (run [] tokens).stack.map Pending.slot = before ++ .unclosed :: back := by
  rcases List.append_eq_append_iff.mp cut with ⟨before, _, split⟩ | ⟨before, split, rest⟩
  · exact ⟨before, split⟩
  · cases before with
    | nil => exact ⟨[], rest.symm⟩
    | cons slot before =>
        obtain ⟨rfl, _⟩ := List.cons.inj rest
        exact absurd (by simp [split]) (unclosed_not_mem_output tokens)

end Progress

namespace Completes

variable {tokens opening closing : List PlacedToken}

/-- Behind the opening parentheses a run goes on as from the start, without strays. -/
theorem run_opening (completes : Completes tokens opening closing) :
    Progress.run [] (opening ++ tokens) = { Progress.run [] tokens with strays := [] } := by
  have exact : (Progress.run [] tokens).strays.length =
      ((opening.map (·.offset)).reverse).length := by
    rw [← (Progress.countP_unmatched tokens).1, ← completes.strays]
    simp
  have inside := Progress.run_inside _ (Nat.le_of_eq exact)
  rw [List.nil_append] at inside
  rw [Progress.run_append, Progress.run_opening completes.opens, List.append_nil, inside, exact]
  simp [Progress.followedBy]

/-- Opening parentheses for the strays do not change the result. -/
theorem slots_opening (completes : Completes tokens opening closing) :
    (Conversion.ofTokens (opening ++ tokens)).slots = (Conversion.ofTokens tokens).slots := by
  rw [Conversion.slots_ofTokens, completes.run_opening]
  rfl

/-- A run on the completed list has no strays, leaves no group open and writes the same slots as one
on the list itself but for those of its unclosed groups. -/
theorem run_completed (completes : Completes tokens opening closing) :
    (Progress.run [] (opening ++ tokens ++ closing)).strays = [] ∧
      Progress.openOffsets (Progress.run [] (opening ++ tokens ++ closing)).stack = [] ∧
      (Progress.run [] (opening ++ tokens ++ closing)).drained =
        (Progress.run [] tokens).drained.filter (· ≠ .unclosed) := by
  have exact : closing.length = (Progress.openOffsets (Progress.run [] tokens).stack).length := by
    rw [← (Progress.countP_unmatched tokens).2, completes.unclosed]
  obtain ⟨inside, closed, written⟩ := Progress.run_closing completes.closes exact
  have kept : (Progress.run [] tokens).output.filter (· ≠ .unclosed) =
      (Progress.run [] tokens).output := by
    rw [List.filter_eq_self]
    rintro slot member
    simp only [decide_eq_true_eq]
    rintro rfl
    exact Progress.unclosed_not_mem_output tokens member
  rw [Progress.run_append, completes.run_opening, Progress.drained_followedBy, written,
    Progress.drained, List.filter_append, kept]
  exact ⟨inside, closed, rfl⟩

/-- In the completed list every parenthesis has a partner. -/
theorem defects_eq_nil (completes : Completes tokens opening closing) (filled : tokens ≠ []) :
    (Conversion.ofTokens (opening ++ tokens ++ closing)).defects = [] := by
  obtain ⟨inside, closed, _⟩ := completes.run_completed
  have someToken : (opening ++ tokens ++ closing).isEmpty = false := by simp [filled]
  rw [Progress.openOffsets] at closed
  rw [Conversion.ofTokens, inside, closed, someToken]
  rfl

end Completes

namespace Conversion

/-- The slots of unclosed groups are as many as the opening parentheses without a partner. -/
theorem count_unclosed (tokens : List PlacedToken) :
    (ofTokens tokens).slots.count .unclosed = (unmatched tokens).countP (·.token = .openParen) := by
  have fromTokens := List.count_eq_zero.mpr (Progress.unclosed_not_mem_filled tokens)
  rw [(accounts tokens).complete.count_eq, List.count_append, fromTokens, List.count_replicate_self,
    Nat.zero_add]

/-- No term comes behind the slot of an unclosed group. -/
theorem term_not_mem_after_unclosed {tokens : List PlacedToken} {front back : List Slot}
    (cut : (ofTokens tokens).slots = front ++ .unclosed :: back) (text : Text) :
    .term text ∉ back := by
  rw [slots_ofTokens] at cut
  obtain ⟨before, split⟩ := Progress.stack_of_drained cut
  intro member
  have onStack : .term text ∈ (Progress.run [] tokens).stack.map Pending.slot := by
    rw [split]
    exact List.mem_append_right _ (List.mem_cons_of_mem _ member)
  obtain ⟨entry, _, same⟩ := List.mem_map.mp onStack
  cases entry <;> cases same

end Conversion

/-- A malformed list is converted like the list completed at its start, and strict mode accepts the
list completed at both ends, with the result of the list itself less the elements of its unclosed
groups. These are as many as the closing parentheses that were added, and no term comes behind one
of them. -/
theorem convertTokens_completed (converter : Converter) {tokens opening closing : List PlacedToken}
    (filled : tokens ≠ []) (completes : Completes tokens opening closing) :
    converter.convertTokens false (opening ++ tokens) = converter.convertTokens false tokens ∧
    converter.convertTokens false tokens =
      .ok ((Conversion.ofTokens tokens).slots.map (Slot.write converter.writeTerm)) ∧
    converter.convertTokens true (opening ++ tokens ++ closing) =
      .ok (((Conversion.ofTokens tokens).slots.filter (· ≠ .unclosed)).map
        (Slot.write converter.writeTerm)) ∧
    (Conversion.ofTokens tokens).slots.count .unclosed = closing.length ∧
    ∀ front back, (Conversion.ofTokens tokens).slots = front ++ .unclosed :: back →
      ∀ text, .term text ∉ back := by
  refine ⟨?_, converter.convertTokens_lenient tokens, ?_, ?_,
    fun front back cut => Conversion.term_not_mem_after_unclosed cut⟩
  · rw [converter.convertTokens_lenient, converter.convertTokens_lenient, Converter.write,
      Converter.write, Conversion.write, Conversion.write, completes.slots_opening]
  · have accepted := Conversion.defects_eq_nil_iff.mp (completes.defects_eq_nil filled)
    rw [converter.convertTokens_strict_ok_iff, converter.convertTokens_lenient]
    refine ⟨accepted.1, accepted.2, ?_⟩
    rw [Converter.write, Conversion.write, Conversion.slots_ofTokens, completes.run_completed.2.2]
    rfl
  · rw [Conversion.count_unclosed, completes.unclosed]

/-- The list `a OR b ) AND ( NOT ( c` lacks one parenthesis at its start and two at its end. -/
theorem convertTokens_completed_of_stray_and_open :
    let converter : Converter := ⟨Text.tag, ⟨true, false⟩⟩
    let tokens : List PlacedToken := [⟨.term ['a'], 0⟩, ⟨.operator .or, 2⟩, ⟨.term ['b'], 5⟩,
      ⟨.closeParen, 7⟩, ⟨.operator .and, 9⟩, ⟨.openParen, 13⟩, ⟨.operator .not, 15⟩,
      ⟨.openParen, 19⟩, ⟨.term ['c'], 21⟩]
    let opening : List PlacedToken := [⟨.openParen, 0⟩]
    let closing : List PlacedToken := [⟨.closeParen, 23⟩, ⟨.closeParen, 25⟩]
    tokens ≠ [] ∧ Completes tokens opening closing ∧
      converter.convertTokens false tokens =
        .ok ["<a>".toList, "<b>".toList, "OR".toList, "<c>".toList, "(".toList, "NOT".toList,
          "(".toList, "AND".toList] ∧
      converter.convertTokens true (opening ++ tokens ++ closing) =
        .ok ["<a>".toList, "<b>".toList, "OR".toList, "<c>".toList, "NOT".toList,
          "AND".toList] := by
  intro converter tokens opening closing
  have filled : tokens ≠ [] := List.cons_ne_nil _ _
  have completes : Completes tokens opening closing := ⟨by decide, by decide, rfl, rfl⟩
  obtain ⟨_, lenient, accepted, _⟩ := convertTokens_completed converter filled completes
  exact ⟨filled, completes, lenient.trans (congrArg Except.ok (by decide +kernel)),
    accepted.trans (congrArg Except.ok (by decide +kernel))⟩

end BoolQuery
