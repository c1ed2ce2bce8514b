import BoolQuery.Proofs.Postfix.Stack

/-!
# Conversion under renaming

A run compares no term texts and no offsets. `run_map` says so: reading renamed tokens does what
reading the tokens does, renamed. Hence the order of a result depends only on the shapes of the
tokens, that is, on what is left of them without the texts of their terms.
-/

namespace BoolQuery

/-- A token with the text of a term renamed. -/
def Token.mapText (rename : Text → Text) : Token → Token
  | .term text => .term (rename text)
  | .operator op => .operator op
  | .openParen => .openParen
  | .closeParen => .closeParen

/-- A slot with the text of a term renamed. -/
def Slot.mapText (rename : Text → Text) : Slot → Slot
  | .term text => .term (rename text)
  | .operator op => .operator op
  | .unclosed => .unclosed

/-- What is left of a token without the text of a term. -/
def Token.shape (token : Token) : Token :=
  token.mapText fun _ => []

/-- What is left of a slot without the text of a term. -/
def Slot.shape (slot : Slot) : Slot :=
  slot.mapText fun _ => []

/-- A token renamed and moved to another offset. -/
def PlacedToken.map (rename : Text → Text) (move : Nat → Nat) (placed : PlacedToken) :
    PlacedToken :=
  ⟨placed.token.mapText rename, move placed.offset⟩

/-- Renaming a token at its place renames the token. -/
theorem PlacedToken.map_token {placed : PlacedToken} {token : Token} (kind : placed.token = token)
    (rename : Text → Text) (move : Nat → Nat) :
    (placed.map rename move).token = token.mapText rename := by
  rw [← kind]
  rfl

/-- An entry of the stack with the parenthesis of a group moved to another offset. -/
def Pending.move (move : Nat → Nat) : Pending → Pending
  | .operator op => .operator op
  | .group offset => .group (move offset)

/-- Operators have no offset that could move. -/
@[simp] theorem Pending.map_move_operators (move : Nat → Nat) (operators : List Operator) :
    (operators.map Pending.operator).map (Pending.move move) = operators.map .operator := by
  simp [Pending.move]

/-- Operators have no text that could be renamed. -/
@[simp] theorem Slot.map_mapText_operators (rename : Text → Text) (operators : List Operator) :
    (operators.map Slot.operator).map (Slot.mapText rename) = operators.map .operator := by
  simp [Slot.mapText]

/-- Moving offsets does not change where flushing stops. -/
theorem Pending.Stops.map {incoming : Operator} {stack : List Pending}
    (stops : Pending.Stops incoming stack) (move : Nat → Nat) :
    Pending.Stops incoming (stack.map (Pending.move move)) := by
  cases stack with
  | nil => trivial
  | cons entry stack =>
      cases entry with
      | operator top => exact stops
      | group offset => trivial

namespace Progress

/-- What reading does, with terms renamed and offsets moved. -/
def map (rename : Text → Text) (move : Nat → Nat) (progress : Progress) : Progress :=
  ⟨progress.stack.map (Pending.move move), progress.output.map (Slot.mapText rename),
    progress.strays.map move, progress.flushes⟩

/-- Two stretches of reading can be renamed one by one. -/
theorem map_followedBy (rename : Text → Text) (move : Nat → Nat) (first later : Progress) :
    (first.followedBy later).map rename move =
      (first.map rename move).followedBy (later.map rename move) := by
  simp [map, followedBy]

/-- Whatever a token does, its renamed form does the same to the renamed stack. -/
theorem Reads.map {stack : List Pending} {placed : PlacedToken} {progress : Progress}
    (reads : Reads stack placed progress) (rename : Text → Text) (move : Nat → Nat) :
    Reads (stack.map (Pending.move move)) (placed.map rename move) (progress.map rename move) := by
  cases reads with
  | term kind => exact .term (PlacedToken.map_token kind rename move)
  | opens kind => exact .opens (PlacedToken.map_token kind rename move)
  | closes kind operators offset below =>
      simp only [Progress.map, List.map_append, List.map_cons, Pending.map_move_operators,
        Slot.map_mapText_operators]
      exact .closes (PlacedToken.map_token kind rename move) operators (move offset)
        (below.map (Pending.move move))
  | stray kind operators =>
      simp only [Progress.map, Pending.map_move_operators, Slot.map_mapText_operators]
      exact .stray (PlacedToken.map_token kind rename move) operators
  | unary kind unary => exact .unary (PlacedToken.map_token kind rename move) unary
  | binary kind binary popped remaining tighter stops =>
      simp only [Progress.map, List.map_append, List.map_cons, Pending.map_move_operators,
        Slot.map_mapText_operators]
      exact .binary (PlacedToken.map_token kind rename move) binary popped
        (remaining.map (Pending.move move)) tighter (stops.map move)

/-- A run commutes with renaming. -/
theorem run_map (rename : Text → Text) (move : Nat → Nat) (stack : List Pending)
    (tokens : List PlacedToken) :
    run (stack.map (Pending.move move)) (tokens.map (PlacedToken.map rename move)) =
      (run stack tokens).map rename move := by
  induction tokens generalizing stack with
  | nil => rfl
  | cons placed tokens inductionHypothesis =>
      obtain ⟨first, reads⟩ := exists_reads stack placed
      rw [List.map_cons, (reads.map rename move).run_cons, reads.run_cons, map_followedBy,
        ← inductionHypothesis]
      rfl

/-- Renaming may come before or after the stack is drained. -/
theorem drained_map (rename : Text → Text) (move : Nat → Nat) (progress : Progress) :
    (progress.map rename move).drained = progress.drained.map (Slot.mapText rename) := by
  have entries : ∀ entry : Pending, (entry.move move).slot = entry.slot.mapText rename := by
    intro entry
    cases entry <;> rfl
  simp [drained, map, entries]

end Progress

namespace Conversion

/-- The slots of renamed tokens are the renamed slots. -/
theorem slots_map (rename : Text → Text) (move : Nat → Nat) (tokens : List PlacedToken) :
    (ofTokens (tokens.map (PlacedToken.map rename move))).slots =
      (ofTokens tokens).slots.map (Slot.mapText rename) := by
  have renamed := Progress.run_map rename move [] tokens
  rw [List.map_nil] at renamed
  rw [slots_ofTokens, renamed, Progress.drained_map, slots_ofTokens]

/-- Tokens of the same shapes have slots of the same shapes. -/
theorem slots_shape {tokens other : List PlacedToken}
    (same : other.map (·.token.shape) = tokens.map (·.token.shape)) :
    (ofTokens other).slots.map Slot.shape = (ofTokens tokens).slots.map Slot.shape := by
  -- Without texts and offsets both lists are the same.
  have bare : ∀ list : List PlacedToken, list.map (PlacedToken.map (fun _ => []) fun _ => 0) =
      (list.map (·.token.shape)).map fun token => ⟨token, 0⟩ := by
    intro list
    simp [PlacedToken.map, Token.shape]
  have both : other.map (PlacedToken.map (fun _ => []) fun _ => 0) =
      tokens.map (PlacedToken.map (fun _ => []) fun _ => 0) := by
    rw [bare, bare, same]
  have slots := slots_map (fun _ => []) (fun _ => 0) other
  rw [both, slots_map] at slots
  exact slots.symm

end Conversion
end BoolQuery
