import BoolQuery.Postfix

/-!
# What reading a token does

`Reads` lists everything that one token can do to the stack and to the result, and `reads_iff` says
that `Progress.step` does exactly this. Later proofs argue by cases on `Reads` and never open the
loops that flush operators or close groups. `run_append` cuts a run at any token, and `run_onTopOf`
says that a run does not notice entries below its own part of the stack as long as it neither closes
a group there nor flushes an operator there.
-/

namespace BoolQuery

namespace Pending

/-- A binary operator that arrives flushes nothing from this stack. -/
def Stops (incoming : Operator) : List Pending → Prop
  | .operator top :: _ => top.precedence < incoming.precedence
  | .group _ :: _ | [] => True

/-- Every stack is a stretch of operators with nothing or an open group below. -/
theorem operators_or_group (stack : List Pending) :
    (∃ operators : List Operator, stack = operators.map .operator) ∨
      ∃ (operators : List Operator) (offset : Nat) (below : List Pending),
        stack = operators.map .operator ++ .group offset :: below := by
  induction stack with
  | nil => exact .inl ⟨[], rfl⟩
  | cons entry stack inductionHypothesis =>
      cases entry with
      | group offset => exact .inr ⟨[], offset, stack, rfl⟩
      | operator op =>
          rcases inductionHypothesis with ⟨operators, rfl⟩ | ⟨operators, offset, below, rfl⟩
          · exact .inl ⟨op :: operators, rfl⟩
          · exact .inr ⟨op :: operators, offset, below, rfl⟩

/-- Without an open group all operators are popped and no stack is found below. -/
theorem closeGroup_operators (operators : List Operator) :
    closeGroup (operators.map .operator) = (operators, none) := by
  induction operators with
  | nil => rfl
  | cons op operators inductionHypothesis => simp [closeGroup, inductionHypothesis]

/-- Closing a group pops the operators above it. -/
theorem closeGroup_group (operators : List Operator) (offset : Nat) (below : List Pending) :
    closeGroup (operators.map .operator ++ .group offset :: below) = (operators, some below) := by
  induction operators with
  | nil => rfl
  | cons op operators inductionHypothesis => simp [closeGroup, inductionHypothesis]

/-- A flush takes exactly the operators on top that bind at least as tightly. -/
theorem flush_append {incoming : Operator} {popped : List Operator} {remaining : List Pending}
    (tighter : ∀ top ∈ popped, incoming.precedence ≤ top.precedence)
    (stops : Stops incoming remaining) :
    flush incoming (popped.map .operator ++ remaining) = (popped, remaining) := by
  induction popped with
  | nil =>
      cases remaining with
      | nil => rfl
      | cons entry remaining =>
          cases entry with
          | group offset => rfl
          | operator top => simp [flush, show top.precedence < incoming.precedence from stops]
  | cons top popped inductionHypothesis =>
      have binds := tighter top List.mem_cons_self
      have rest := inductionHypothesis fun other member =>
        tighter other (List.mem_cons_of_mem top member)
      simp [flush, rest, Nat.not_lt.mpr binds]

/-- Every stack is what a flush takes, followed by what it leaves. -/
theorem exists_flush (incoming : Operator) (stack : List Pending) :
    ∃ (popped : List Operator) (remaining : List Pending),
      stack = popped.map .operator ++ remaining ∧
      (∀ top ∈ popped, incoming.precedence ≤ top.precedence) ∧ Stops incoming remaining := by
  induction stack with
  | nil => exact ⟨[], [], rfl, by simp, trivial⟩
  | cons entry stack inductionHypothesis =>
      cases entry with
      | group offset => exact ⟨[], .group offset :: stack, rfl, by simp, trivial⟩
      | operator top =>
          by_cases looser : top.precedence < incoming.precedence
          · exact ⟨[], .operator top :: stack, rfl, by simp, looser⟩
          · obtain ⟨popped, remaining, rfl, tighter, stops⟩ := inductionHypothesis
            exact ⟨top :: popped, remaining, rfl,
              List.forall_mem_cons.mpr ⟨Nat.not_lt.mp looser, tighter⟩, stops⟩

/-- Where flushing stops above and below, it stops on both together. -/
theorem Stops.append {incoming : Operator} {stack bottom : List Pending}
    (stops : Stops incoming stack) (bottomStops : Stops incoming bottom) :
    Stops incoming (stack ++ bottom) := by
  cases stack with
  | nil => exact bottomStops
  | cons entry stack =>
      cases entry with
      | operator top => exact stops
      | group offset => trivial

end Pending

namespace Progress

/-- What reading one token can do, one case for each kind of token and state of the stack. -/
inductive Reads : List Pending → PlacedToken → Progress → Prop where
  | term {stack placed text} (kind : placed.token = .term text) :
      Reads stack placed ⟨stack, [.term text], [], []⟩
  | opens {stack placed} (kind : placed.token = .openParen) :
      Reads stack placed ⟨.group placed.offset :: stack, [], [], []⟩
  | closes {placed} (kind : placed.token = .closeParen)
      (operators : List Operator) (offset : Nat) (below : List Pending) :
      Reads (operators.map .operator ++ .group offset :: below) placed
        ⟨below, operators.map .operator, [], []⟩
  | stray {placed} (kind : placed.token = .closeParen) (operators : List Operator) :
      Reads (operators.map .operator) placed
        ⟨[], operators.map .operator, [placed.offset], []⟩
  | unary {stack placed op} (kind : placed.token = .operator op) (unary : op.isUnary = true) :
      Reads stack placed ⟨.operator op :: stack, [], [], []⟩
  | binary {placed op} (kind : placed.token = .operator op) (binary : op.isUnary = false)
      (popped : List Operator) (remaining : List Pending)
      (tighter : ∀ top ∈ popped, op.precedence ≤ top.precedence)
      (stops : Pending.Stops op remaining) :
      Reads (popped.map .operator ++ remaining) placed
        ⟨.operator op :: remaining, popped.map .operator, [], popped.map (⟨·, op⟩)⟩

/-- The cases of reading a token determine what a step does. -/
theorem Reads.step_eq {stack : List Pending} {placed : PlacedToken} {progress : Progress}
    (reads : Reads stack placed progress) : step stack placed = progress := by
  cases reads with
  | term kind => simp [step, kind]
  | opens kind => simp [step, kind]
  | closes kind operators offset below => simp [step, kind, Pending.closeGroup_group]
  | stray kind operators => simp [step, kind, Pending.closeGroup_operators]
  | unary kind unary => simp [step, kind, unary]
  | binary kind binary popped remaining tighter stops =>
      simp [step, kind, binary, Pending.flush_append tighter stops]

/-- Every token can be read against every stack. -/
theorem exists_reads (stack : List Pending) (placed : PlacedToken) :
    ∃ progress, Reads stack placed progress := by
  cases kind : placed.token with
  | term text => exact ⟨_, .term kind⟩
  | openParen => exact ⟨_, .opens kind⟩
  | closeParen =>
      rcases Pending.operators_or_group stack with
        ⟨operators, rfl⟩ | ⟨operators, offset, below, rfl⟩
      · exact ⟨_, .stray kind operators⟩
      · exact ⟨_, .closes kind operators offset below⟩
  | operator op =>
      cases arity : op.isUnary with
      | true => exact ⟨_, .unary kind arity⟩
      | false =>
          obtain ⟨popped, remaining, rfl, tighter, stops⟩ := Pending.exists_flush op stack
          exact ⟨_, .binary kind arity popped remaining tighter stops⟩

/-- Reading a token does exactly what `Reads` lists. -/
theorem reads_iff {stack : List Pending} {placed : PlacedToken} {progress : Progress} :
    Reads stack placed progress ↔ step stack placed = progress := by
  constructor
  · exact Reads.step_eq
  · rintro rfl
    obtain ⟨progress, reads⟩ := exists_reads stack placed
    rwa [reads.step_eq]

/-- Every step is one of these cases. -/
theorem step_reads (stack : List Pending) (placed : PlacedToken) :
    Reads stack placed (step stack placed) :=
  reads_iff.mpr rfl

/-- One stretch of reading after another: the stack is that of the later one, everything else adds
up. -/
def followedBy (first later : Progress) : Progress :=
  ⟨later.stack, first.output ++ later.output, first.strays ++ later.strays,
    first.flushes ++ later.flushes⟩

/-- The same stretch of reading with further entries at the bottom of the stack. -/
def onTopOf (progress : Progress) (bottom : List Pending) : Progress :=
  { progress with stack := progress.stack ++ bottom }

/-- Everything written once the stack that is left has been written as well. -/
def drained (progress : Progress) : List Slot :=
  progress.output ++ progress.stack.map Pending.slot

/-- Stretches of reading can be put together in any grouping. -/
theorem followedBy_assoc (first second third : Progress) :
    (first.followedBy second).followedBy third = first.followedBy (second.followedBy third) := by
  simp [followedBy]

/-- Only the last stretch of reading decides what lies on the stack. -/
theorem followedBy_onTopOf (first later : Progress) (bottom : List Pending) :
    (first.followedBy later).onTopOf bottom = first.followedBy (later.onTopOf bottom) := rfl

/-- What the first stretch writes stands before all that comes from the later one. -/
theorem drained_followedBy (first later : Progress) :
    (first.followedBy later).drained = first.output ++ later.drained := by
  simp [drained, followedBy]

theorem run_nil (stack : List Pending) : run stack [] = ⟨stack, [], [], []⟩ := rfl

/-- A run is its first step and the run behind it. -/
theorem run_cons (stack : List Pending) (placed : PlacedToken) (tokens : List PlacedToken) :
    run stack (placed :: tokens) =
      (step stack placed).followedBy (run (step stack placed).stack tokens) := rfl

/-- A run starts with the case that its first token falls under. -/
theorem Reads.run_cons {stack : List Pending} {placed : PlacedToken} {first : Progress}
    (reads : Reads stack placed first) (tokens : List PlacedToken) :
    run stack (placed :: tokens) = first.followedBy (run first.stack tokens) := by
  rw [Progress.run_cons, reads.step_eq]

/-- A run may be interrupted after any token. -/
theorem run_append (stack : List Pending) (front back : List PlacedToken) :
    run stack (front ++ back) =
      (run stack front).followedBy (run (run stack front).stack back) := by
  induction front generalizing stack with
  | nil => rfl
  | cons placed front inductionHypothesis =>
      rw [List.cons_append, run_cons, inductionHypothesis, run_cons, followedBy_assoc]
      rfl

/-- A token that flushes nothing from a stack, should everything above have been flushed. -/
def Shielded (bottom : List Pending) (token : Token) : Prop :=
  ∀ op, token = .operator op → op.isUnary = false → Pending.Stops op bottom

/-- Entries below the reach of a token stay where they are. -/
theorem Reads.onTopOf {stack bottom : List Pending} {placed : PlacedToken} {progress : Progress}
    (reads : Reads stack placed progress) (inside : progress.strays = [])
    (shielded : Shielded bottom placed.token) :
    Reads (stack ++ bottom) placed (progress.onTopOf bottom) := by
  cases reads with
  | term kind => exact .term kind
  | opens kind => exact .opens kind
  | closes kind operators offset below =>
      rw [List.append_assoc]
      exact .closes kind operators offset (below ++ bottom)
  | stray kind operators => simp at inside
  | unary kind unary => exact .unary kind unary
  | binary kind binary popped remaining tighter stops =>
      rw [List.append_assoc]
      exact .binary kind binary popped (remaining ++ bottom) tighter
        (stops.append (shielded _ kind binary))

/-- A run that closes only groups of its own does not notice what lies below a shielding entry. -/
theorem run_onTopOf {stack bottom : List Pending} {tokens : List PlacedToken}
    (inside : (run stack tokens).strays = [])
    (shielded : ∀ placed ∈ tokens, Shielded bottom placed.token) :
    run (stack ++ bottom) tokens = (run stack tokens).onTopOf bottom := by
  induction tokens generalizing stack with
  | nil => rfl
  | cons placed tokens inductionHypothesis =>
      have reads := step_reads stack placed
      obtain ⟨headInside, tailInside⟩ := List.append_eq_nil_iff.mp inside
      obtain ⟨headShielded, tailShielded⟩ := List.forall_mem_cons.mp shielded
      rw [(reads.onTopOf headInside headShielded).run_cons, run_cons, followedBy_onTopOf,
        ← inductionHypothesis tailInside tailShielded]
      rfl

end Progress

/-- The slots of a conversion are those of a run on the empty stack that is then drained. -/
theorem Conversion.slots_ofTokens (tokens : List PlacedToken) :
    (Conversion.ofTokens tokens).slots = (Progress.run [] tokens).drained := rfl

end BoolQuery
