import BoolQuery.Proofs.Postfix.Accounting

/-!
# Groups in context

Whatever surrounds it, a balanced list between parentheses is converted as if it stood alone, and
its result takes the place that a single term would have there. `slots_context_group` and
`slots_context_open` name that place: a context puts certain slots before and certain slots behind,
the same for a term, for a group and for a group that is never closed. `convertTokens_group` says
the same of the elements that are written, as long as the term that holds the place can be told from
the rest.
-/

namespace BoolQuery

open Parentheses

/-- A result with a list of elements in the place of every occurrence of one element. -/
def substitute (element : Text) (part output : List Text) : List Text :=
  output.flatMap fun other => if other = element then part else [other]

/-- An element that does not occur is not replaced. -/
theorem substitute_of_not_mem {element : Text} {output : List Text} (absent : element ∉ output)
    (part : List Text) : substitute element part output = output := by
  induction output with
  | nil => rfl
  | cons other output inductionHypothesis =>
      have different := List.ne_of_not_mem_cons absent
      have rest := inductionHypothesis (List.not_mem_of_not_mem_cons absent)
      rw [substitute, List.flatMap_cons, if_neg (Ne.symm different), ← substitute, rest]
      rfl

/-- An element that occurs once is replaced where it stands. -/
theorem substitute_once {element : Text} {before after : List Text}
    (once : (before ++ element :: after).count element = 1) (part : List Text) :
    substitute element part (before ++ element :: after) = before ++ part ++ after := by
  rw [List.count_append, List.count_cons_self] at once
  have notBefore : element ∉ before := List.not_mem_of_count_eq_zero (by omega)
  have notAfter : element ∉ after := List.not_mem_of_count_eq_zero (by omega)
  have parts : substitute element part (before ++ element :: after) =
      substitute element part before ++ (part ++ substitute element part after) := by
    simp [substitute]
  rw [parts, substitute_of_not_mem notBefore, substitute_of_not_mem notAfter, List.append_assoc]

/-- A context writes other slots where it would write a term whose element it does not hold. -/
theorem Slot.map_write_context {normalize : Text → Text} {before after : List Slot} {text : Text}
    (once : ((before ++ .term text :: after).map (write normalize)).count (normalize text) = 1)
    (slots : List Slot) :
    (before ++ slots ++ after).map (write normalize) =
      substitute (normalize text) (slots.map (write normalize))
        ((before ++ .term text :: after).map (write normalize)) := by
  have written : (before ++ .term text :: after).map (write normalize) =
      before.map (write normalize) ++ normalize text :: after.map (write normalize) := by
    rw [List.map_append, List.map_cons, write]
  rw [written] at once ⊢
  rw [substitute_once once, List.map_append, List.map_append]

namespace Conversion

variable {front inner back : List PlacedToken} {opening closing holder : PlacedToken} {text : Text}

/-- The slots that a context puts before what stands in it. -/
def slotsBefore (front : List PlacedToken) : List Slot :=
  (Progress.run [] front).output

/-- The slots that a context puts behind what stands in it, if this leaves the stack as it was. -/
def slotsAfter (front back : List PlacedToken) : List Slot :=
  (Progress.run (Progress.run [] front).stack back).drained

/-- A term in a context has the slots of the context around its own. -/
theorem slots_context_term (holds : holder.token = .term text) :
    (ofTokens (front ++ holder :: back)).slots =
      slotsBefore front ++ .term text :: slotsAfter front back := by
  rw [slots_ofTokens, Progress.run_append, Progress.drained_followedBy,
    (Progress.Reads.term holds).run_cons, Progress.drained_followedBy]
  rfl

/-- A group stands in its context with the slots that it has alone. -/
theorem slots_context_group (opens : opening.token = .openParen) (balanced : Balanced inner)
    (closes : closing.token = .closeParen) :
    (ofTokens (front ++ opening :: (inner ++ closing :: back))).slots =
      slotsBefore front ++ (ofTokens inner).slots ++ slotsAfter front back := by
  rw [slots_ofTokens, Progress.run_append, Progress.drained_followedBy,
    Progress.run_group _ opens balanced closes, Progress.drained_followedBy, List.append_assoc]
  rfl

/-- A group that is never closed does so too, with a slot of its own behind. -/
theorem slots_context_open (opens : opening.token = .openParen) (balanced : Balanced inner) :
    (ofTokens (front ++ opening :: inner)).slots =
      slotsBefore front ++ ((ofTokens inner).slots ++ [.unclosed]) ++ slotsAfter front [] := by
  obtain ⟨inside, _, _⟩ := Progress.run_balanced balanced
  have above : Progress.run (.group opening.offset :: (Progress.run [] front).stack) inner =
      (Progress.run [] inner).onTopOf (.group opening.offset :: (Progress.run [] front).stack) :=
    Progress.run_onTopOf inside fun _ _ _ _ _ => trivial
  rw [slots_ofTokens, Progress.run_append, Progress.drained_followedBy,
    (Progress.Reads.opens opens).run_cons, Progress.drained_followedBy, above]
  simp [Progress.onTopOf, Progress.drained, slotsBefore, slotsAfter, slots_ofTokens,
    Progress.run_nil, Pending.slot]

end Conversion

/-- In every context a balanced group is converted as if it stood alone: its result takes the place
that the element of a term has there, if that element occurs nowhere else. For a group at the end
that is never closed, the result with an opening parenthesis behind it does. -/
theorem convertTokens_group (converter : Converter) (front back : List PlacedToken)
    {inner : List PlacedToken} {opening closing holder : PlacedToken} {text : Text}
    (opens : opening.token = .openParen) (balanced : Balanced inner)
    (closes : closing.token = .closeParen) (holds : holder.token = .term text) :
    ∃ part, converter.convertTokens false inner = .ok part ∧
      (∃ output, converter.convertTokens false (front ++ holder :: back) = .ok output ∧
        (output.count (converter.writeTerm text) = 1 →
          converter.convertTokens false (front ++ opening :: (inner ++ closing :: back)) =
            .ok (substitute (converter.writeTerm text) part output))) ∧
      ∃ output, converter.convertTokens false (front ++ [holder]) = .ok output ∧
        (output.count (converter.writeTerm text) = 1 →
          converter.convertTokens false (front ++ opening :: inner) =
            .ok (substitute (converter.writeTerm text) (part ++ [['(']]) output)) := by
  have lenient : ∀ tokens, converter.convertTokens false tokens =
      .ok ((Conversion.ofTokens tokens).slots.map (Slot.write converter.writeTerm)) :=
    converter.convertTokens_lenient
  refine ⟨_, lenient inner, ⟨_, lenient _, fun once => ?_⟩, ⟨_, lenient _, fun once => ?_⟩⟩
  · rw [Conversion.slots_context_term holds] at once ⊢
    rw [lenient, Conversion.slots_context_group opens balanced closes, Slot.map_write_context once]
  · rw [Conversion.slots_context_term holds] at once ⊢
    rw [lenient, Conversion.slots_context_open opens balanced, Slot.map_write_context once,
      List.map_append]
    rfl

/-- The group `( b ( c AND ) )` stands behind a stray parenthesis and inside an open group in
`a ) NOT ( OR _ AND`, and is left open at the end of `a ) NOT ( OR`. -/
theorem convertTokens_group_of_stray_and_open :
    let converter : Converter := ⟨Text.tag, ⟨false, false⟩⟩
    let front : List PlacedToken := [⟨.term ['a'], 0⟩, ⟨.closeParen, 2⟩, ⟨.operator .not, 4⟩,
      ⟨.openParen, 8⟩, ⟨.operator .or, 10⟩]
    let inner : List PlacedToken := [⟨.term ['b'], 15⟩, ⟨.openParen, 17⟩, ⟨.term ['c'], 19⟩,
      ⟨.operator .and, 21⟩, ⟨.closeParen, 25⟩]
    let back : List PlacedToken := [⟨.operator .and, 29⟩]
    Balanced inner ∧
      converter.convertTokens false (front ++ ⟨.term ['_'], 13⟩ :: back) =
        .ok ["<a>".toList, "<_>".toList, "AND".toList, "OR".toList, "(".toList, "NOT".toList] ∧
      converter.convertTokens false
          (front ++ ⟨.openParen, 13⟩ :: (inner ++ ⟨.closeParen, 27⟩ :: back)) =
        .ok (substitute "<_>".toList ["<b>".toList, "<c>".toList, "AND".toList]
          ["<a>".toList, "<_>".toList, "AND".toList, "OR".toList, "(".toList, "NOT".toList]) ∧
      converter.convertTokens false (front ++ ⟨.openParen, 13⟩ :: inner) =
        .ok (substitute "<_>".toList ["<b>".toList, "<c>".toList, "AND".toList, "(".toList]
          ["<a>".toList, "<_>".toList, "OR".toList, "(".toList, "NOT".toList]) := by
  intro converter front inner back
  have balanced : Balanced inner := unmatched_eq_nil_iff.mp rfl
  have opens : (⟨.openParen, 13⟩ : PlacedToken).token = .openParen := rfl
  have closes : (⟨.closeParen, 27⟩ : PlacedToken).token = .closeParen := rfl
  have holds : (⟨.term ['_'], 13⟩ : PlacedToken).token = .term ['_'] := rfl
  obtain ⟨part, alone, ⟨output, held, closed⟩, ⟨last, heldLast, opened⟩⟩ :=
    convertTokens_group converter front back opens balanced closes holds
  have written : ∀ tokens, converter.convertTokens false tokens =
      .ok ((Conversion.ofTokens tokens).slots.map (Slot.write converter.writeTerm)) :=
    converter.convertTokens_lenient
  rw [written, Except.ok.injEq] at alone held heldLast
  subst alone held heldLast
  refine ⟨balanced, ?_, ?_, ?_⟩
  · rw [written]
    decide +kernel
  · rw [closed (by decide +kernel)]
    decide +kernel
  · rw [opened (by decide +kernel)]
    decide +kernel

end BoolQuery
