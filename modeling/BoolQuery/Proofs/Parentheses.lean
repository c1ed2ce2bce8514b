import BoolQuery.Token

/-!
# Parentheses of token lists

When tokens are read from left to right, a closing parenthesis closes the innermost group that is
still open. `unmatched` lists the parentheses which this rule leaves without a partner, in the order
of the tokens. `Balanced` describes the lists without such parentheses by their shape, and
`unmatched_eq_nil_iff` says that both descriptions agree. `outside` lists the tokens that lie
outside all groups.
-/

namespace BoolQuery

/-- Whether a token is a parenthesis. -/
def Token.isParen : Token → Bool
  | .openParen | .closeParen => true
  | .operator _ | .term _ => false

namespace Parentheses

/-- The parentheses left without a partner when the groups of `opened`, innermost first, are open
before the tokens. A closing parenthesis takes the innermost open group; without one it is left
over at once. Groups still open at the end are left over, outermost first. -/
def unmatchedFrom (opened : List PlacedToken) : List PlacedToken → List PlacedToken
  | [] => opened.reverse
  | placed :: tokens =>
    match placed.token with
    | .openParen => unmatchedFrom (placed :: opened) tokens
    | .closeParen =>
      match opened with
      | [] => placed :: unmatchedFrom [] tokens
      | _ :: outer => unmatchedFrom outer tokens
    | .operator _ | .term _ => unmatchedFrom opened tokens

/-- The parentheses of a token list without a partner, in the order of the list. -/
def unmatched (tokens : List PlacedToken) : List PlacedToken :=
  unmatchedFrom [] tokens

/-- Token lists in which every parenthesis has a partner. -/
inductive Balanced : List PlacedToken → Prop where
  | nil : Balanced []
  | single {placed rest} (plain : placed.token.isParen = false) (balanced : Balanced rest) :
      Balanced (placed :: rest)
  | group {opening inner closing rest} (opens : opening.token = .openParen)
      (innerBalanced : Balanced inner) (closes : closing.token = .closeParen)
      (balanced : Balanced rest) :
      Balanced (opening :: (inner ++ closing :: rest))

/-- The tokens outside all groups of a list that starts inside `depth` groups. Parentheses are not
among them. -/
def outsideFrom (depth : Nat) : List PlacedToken → List Token
  | [] => []
  | placed :: tokens =>
    match placed.token with
    | .openParen => outsideFrom (depth + 1) tokens
    | .closeParen => outsideFrom (depth - 1) tokens
    | .operator _ | .term _ =>
      (if depth = 0 then [placed.token] else []) ++ outsideFrom depth tokens

/-- The tokens of a list that lie outside all groups, in order. -/
def outside (tokens : List PlacedToken) : List Token :=
  outsideFrom 0 tokens

section Unmatched

variable {opened tokens front : List PlacedToken} {placed : PlacedToken}

/-- A token that is no parenthesis leaves the open groups as they are. -/
theorem unmatchedFrom_plain (plain : placed.token.isParen = false) :
    unmatchedFrom opened (placed :: tokens) = unmatchedFrom opened tokens := by
  cases kind : placed.token <;> simp_all [unmatchedFrom, Token.isParen]

/-- An opening parenthesis opens the innermost group. -/
theorem unmatchedFrom_open (opens : placed.token = .openParen) :
    unmatchedFrom opened (placed :: tokens) = unmatchedFrom (placed :: opened) tokens := by
  simp [unmatchedFrom, opens]

/-- A closing parenthesis is left over where no group is open. -/
theorem unmatchedFrom_stray (closes : placed.token = .closeParen) :
    unmatchedFrom [] (placed :: tokens) = placed :: unmatchedFrom [] tokens := by
  simp [unmatchedFrom, closes]

/-- A closing parenthesis takes the innermost open group. -/
theorem unmatchedFrom_close {opening : PlacedToken} (closes : placed.token = .closeParen) :
    unmatchedFrom (opening :: opened) (placed :: tokens) = unmatchedFrom opened tokens := by
  simp [unmatchedFrom, closes]

/-- A balanced stretch neither closes an open group nor leaves one open. -/
theorem Balanced.unmatchedFrom_append (balanced : Balanced front) (opened tokens) :
    unmatchedFrom opened (front ++ tokens) = unmatchedFrom opened tokens := by
  induction balanced generalizing opened tokens with
  | nil => rfl
  | single plain _ restHypothesis =>
      rw [List.cons_append, unmatchedFrom_plain plain, restHypothesis]
  | @group opening inner closing rest opens _ closes _ innerHypothesis restHypothesis =>
      rw [List.cons_append, List.append_assoc, unmatchedFrom_open opens, innerHypothesis,
        List.cons_append, unmatchedFrom_close closes, restHypothesis]

/-- What is left over occurs among the open groups and the tokens, in their order. -/
theorem unmatchedFrom_sublist (opened tokens : List PlacedToken) :
    (unmatchedFrom opened tokens).Sublist (opened.reverse ++ tokens) := by
  induction tokens generalizing opened with
  | nil => simp [unmatchedFrom]
  | cons placed tokens inductionHypothesis =>
      have passed := inductionHypothesis opened
      have longer : (opened.reverse ++ tokens).Sublist (opened.reverse ++ placed :: tokens) :=
        (List.sublist_cons_self placed tokens).append_left opened.reverse
      cases kind : placed.token with
      | operator _ | term _ =>
          rw [unmatchedFrom_plain (by rw [kind]; rfl)]
          exact passed.trans longer
      | openParen =>
          rw [unmatchedFrom_open kind]
          simpa using inductionHypothesis (placed :: opened)
      | closeParen =>
          cases opened with
          | nil =>
              rw [unmatchedFrom_stray kind]
              simpa using passed
          | cons opening outer =>
              rw [unmatchedFrom_close kind]
              -- The two partners are gone, which leaves the others in their order.
              have shorter : (outer.reverse ++ tokens).Sublist
                  ((opening :: outer).reverse ++ tokens) := by simp
              exact ((inductionHypothesis outer).trans shorter).trans longer

/-- The parentheses without a partner are tokens of the list. -/
theorem mem_of_mem_unmatched {tokens : List PlacedToken} {placed : PlacedToken}
    (member : placed ∈ unmatched tokens) : placed ∈ tokens := by
  simpa using (unmatchedFrom_sublist [] tokens).subset member

end Unmatched

section Balanced

variable {front back inner rest : List PlacedToken} {opening closing : PlacedToken}

/-- Balanced lists may stand one behind the other. -/
theorem Balanced.append (frontBalanced : Balanced front) (backBalanced : Balanced back) :
    Balanced (front ++ back) := by
  induction frontBalanced with
  | nil => exact backBalanced
  | single plain _ inductionHypothesis => exact .single plain inductionHypothesis
  | group opens innerBalanced closes _ _ inductionHypothesis =>
      rw [List.cons_append, List.append_assoc, List.cons_append]
      exact .group opens innerBalanced closes inductionHypothesis

/-- A list that is balanced once `count` more groups are opened before it: the closing parentheses
of these groups stand between balanced stretches. -/
def Closes : (count : Nat) → List PlacedToken → Prop
  | 0, tokens => Balanced tokens
  | count + 1, tokens => ∃ front closing rest, tokens = front ++ closing :: rest ∧
      Balanced front ∧ closing.token = .closeParen ∧ Closes count rest

/-- A stretch that may stand before any balanced list may stand before a closing list. -/
theorem Closes.prepend {count : Nat} {tokens : List PlacedToken} (closes : Closes count tokens)
    (front : List PlacedToken)
    (harmless : ∀ {balanced}, Balanced balanced → Balanced (front ++ balanced)) :
    Closes count (front ++ tokens) := by
  cases count with
  | zero => exact harmless closes
  | succ count =>
      obtain ⟨stretch, closing, rest, rfl, balanced, closer, remaining⟩ := closes
      exact ⟨front ++ stretch, closing, rest, by simp, harmless balanced, closer, remaining⟩

/-- A list that leaves nothing over closes all groups that were open before it. -/
theorem closes_of_unmatchedFrom_eq_nil {opened tokens : List PlacedToken}
    (complete : unmatchedFrom opened tokens = []) : Closes opened.length tokens := by
  induction tokens generalizing opened with
  | nil =>
      rw [unmatchedFrom, List.reverse_eq_nil_iff] at complete
      subst complete
      exact Balanced.nil
  | cons placed tokens inductionHypothesis =>
      cases kind : placed.token with
      | operator _ | term _ =>
          have plain : placed.token.isParen = false := by rw [kind]; rfl
          rw [unmatchedFrom_plain plain] at complete
          exact (inductionHypothesis complete).prepend [placed] (.single plain)
      | openParen =>
          rw [unmatchedFrom_open kind] at complete
          -- The group that `placed` opens ends at the first parenthesis the rest closes.
          obtain ⟨inner, closing, rest, rfl, balanced, closer, remaining⟩ :=
            inductionHypothesis complete
          have closed := remaining.prepend (placed :: (inner ++ [closing])) (by
            intro balancedRest restBalanced
            simpa using Balanced.group kind balanced closer restBalanced)
          simpa using closed
      | closeParen =>
          cases opened with
          | nil => simp [unmatchedFrom_stray kind] at complete
          | cons opening outer =>
              rw [unmatchedFrom_close kind] at complete
              exact ⟨[], placed, tokens, rfl, .nil, kind, inductionHypothesis complete⟩

/-- Every parenthesis has a partner exactly in balanced lists. -/
theorem unmatched_eq_nil_iff {tokens : List PlacedToken} :
    unmatched tokens = [] ↔ Balanced tokens := by
  constructor
  · intro complete
    exact closes_of_unmatchedFrom_eq_nil complete
  · intro balanced
    simpa [unmatched, unmatchedFrom] using balanced.unmatchedFrom_append [] []

end Balanced

section Outside

variable {front back inner rest : List PlacedToken} {placed opening closing : PlacedToken}

/-- A token that is no parenthesis lies outside all groups if none is open. -/
theorem outsideFrom_plain {depth : Nat} (plain : placed.token.isParen = false) :
    outsideFrom depth (placed :: rest) =
      (if depth = 0 then [placed.token] else []) ++ outsideFrom depth rest := by
  cases kind : placed.token <;> simp_all [outsideFrom, Token.isParen]

/-- A group adds nothing to what lies outside, if nothing within it does. -/
theorem outsideFrom_group {depth : Nat} (opens : opening.token = .openParen)
    (closes : closing.token = .closeParen)
    (skipped : ∀ tokens,
      outsideFrom (depth + 1) (inner ++ tokens) = outsideFrom (depth + 1) tokens) :
    outsideFrom depth (opening :: (inner ++ closing :: rest)) = outsideFrom depth rest := by
  have entered : outsideFrom depth (opening :: (inner ++ closing :: rest)) =
      outsideFrom (depth + 1) (inner ++ closing :: rest) := by
    rw [outsideFrom]
    simp [opens]
  rw [entered, skipped, outsideFrom]
  simp [closes]

/-- Inside a group, a balanced stretch holds no token outside all groups. -/
theorem Balanced.outsideFrom_append (balanced : Balanced front) (depth tokens) :
    outsideFrom (depth + 1) (front ++ tokens) = outsideFrom (depth + 1) tokens := by
  induction balanced generalizing depth tokens with
  | nil => rfl
  | single plain _ inductionHypothesis =>
      simp [outsideFrom_plain plain, inductionHypothesis]
  | group opens _ closes _ innerHypothesis restHypothesis =>
      rw [List.cons_append, List.append_assoc, List.cons_append,
        outsideFrom_group opens closes (innerHypothesis (depth + 1)), restHypothesis]

@[simp] theorem outside_nil : outside [] = [] := rfl

/-- A token in front that is no parenthesis lies outside all groups. -/
theorem outside_single (plain : placed.token.isParen = false) :
    outside (placed :: rest) = placed.token :: outside rest := by
  simp [outside, outsideFrom_plain plain]

/-- Nothing of a balanced group in front lies outside. -/
theorem outside_group (opens : opening.token = .openParen) (innerBalanced : Balanced inner)
    (closes : closing.token = .closeParen) :
    outside (opening :: (inner ++ closing :: rest)) = outside rest :=
  outsideFrom_group opens closes (innerBalanced.outsideFrom_append 0)

/-- What lies outside the groups of a list is not changed by a balanced list in front of it. -/
theorem Balanced.outside_append (balanced : Balanced front) :
    outside (front ++ back) = outside front ++ outside back := by
  induction balanced with
  | nil => rfl
  | single plain _ inductionHypothesis =>
      simp [outside_single plain, inductionHypothesis]
  | group opens innerBalanced closes _ _ inductionHypothesis =>
      rw [List.cons_append, List.append_assoc, List.cons_append,
        outside_group opens innerBalanced closes, outside_group opens innerBalanced closes,
        inductionHypothesis]

/-- A balanced list is cut at the last place where a token occurs outside all groups. -/
theorem Balanced.exists_last {tokens : List PlacedToken} {token : Token}
    (balanced : Balanced tokens) (occurs : token ∈ outside tokens) :
    ∃ front placed back, tokens = front ++ placed :: back ∧ placed.token = token ∧
      Balanced front ∧ Balanced back ∧ token ∉ outside back := by
  induction balanced with
  | nil => simp at occurs
  | @single placed rest plain restBalanced inductionHypothesis =>
      by_cases later : token ∈ outside rest
      · obtain ⟨front, found, back, rfl, same, frontBalanced, parts⟩ := inductionHypothesis later
        exact ⟨placed :: front, found, back, rfl, same, .single plain frontBalanced, parts⟩
      · rw [outside_single plain] at occurs
        have same := (List.mem_cons.mp occurs).resolve_right later
        exact ⟨[], placed, rest, rfl, same.symm, .nil, restBalanced, later⟩
  | @group opening inner closing rest opens innerBalanced closes _ _ inductionHypothesis =>
      rw [outside_group opens innerBalanced closes] at occurs
      obtain ⟨front, found, back, rfl, same, frontBalanced, parts⟩ := inductionHypothesis occurs
      exact ⟨opening :: (inner ++ closing :: front), found, back, by simp, same,
        .group opens innerBalanced closes frontBalanced, parts⟩

/-- A balanced list is cut at the first place where a token occurs outside all groups. -/
theorem Balanced.exists_first {tokens : List PlacedToken} {token : Token}
    (balanced : Balanced tokens) (occurs : token ∈ outside tokens) :
    ∃ front placed back, tokens = front ++ placed :: back ∧ placed.token = token ∧
      Balanced front ∧ Balanced back ∧ token ∉ outside front := by
  induction balanced with
  | nil => simp at occurs
  | @single placed rest plain restBalanced inductionHypothesis =>
      by_cases same : placed.token = token
      · exact ⟨[], placed, rest, rfl, same, .nil, restBalanced, by simp⟩
      · rw [outside_single plain] at occurs
        have later := (List.mem_cons.mp occurs).resolve_left (Ne.symm same)
        obtain ⟨front, found, back, rfl, foundSame, frontBalanced, backBalanced, absent⟩ :=
          inductionHypothesis later
        refine ⟨placed :: front, found, back, rfl, foundSame, .single plain frontBalanced,
          backBalanced, ?_⟩
        rw [outside_single plain]
        exact List.not_mem_cons_of_ne_of_not_mem (Ne.symm same) absent
  | @group opening inner closing rest opens innerBalanced closes _ _ inductionHypothesis =>
      rw [outside_group opens innerBalanced closes] at occurs
      obtain ⟨front, found, back, rfl, same, frontBalanced, backBalanced, absent⟩ :=
        inductionHypothesis occurs
      refine ⟨opening :: (inner ++ closing :: front), found, back, by simp, same,
        .group opens innerBalanced closes frontBalanced, backBalanced, ?_⟩
      rwa [outside_group opens innerBalanced closes]

end Outside

end Parentheses
end BoolQuery
