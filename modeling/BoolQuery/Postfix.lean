import BoolQuery.Diagnostic
import BoolQuery.Token

/-!
# Conversion to postfix order

Tokens are read from left to right against a stack of pending entries, topmost first. A term is
written at once. An operator waits on the stack: `NOT` is pushed as it comes, and a binary operator
first flushes every operator on top of the stack that binds at least as tightly. A parenthesis
opens a group on the stack, and a closing one writes the operators above the innermost group and
removes it. At the end the whole stack is written.

The result is a list of slots, in which terms are not yet normalized, so that the order of the
result is independent of how terms are normalized. Malformed queries are converted all the same: a
closing parenthesis without a group empties the stack and is recorded as stray, and a group that is
never closed leaves a slot of its own.
-/

namespace BoolQuery

/-- An entry that waits on the stack. -/
inductive Pending where
  /-- An operator that waits for its operands. -/
  | operator (op : Operator)
  /-- An open group with the offset of its parenthesis. -/
  | group (offset : Nat)
deriving DecidableEq, Repr

/-- An element of the result. -/
inductive Slot where
  /-- A term, still as written in the query. -/
  | term (text : Text)
  /-- An operator. -/
  | operator (op : Operator)
  /-- What is left of a group that was never closed. -/
  | unclosed
deriving DecidableEq, Repr

/-- An operator that left the stack because another one arrived. -/
structure Flush where
  top : Operator
  incoming : Operator
deriving DecidableEq, Repr

namespace Slot

/-- The element that a slot becomes once terms are written by `normalize`. -/
def write (normalize : Text → Text) : Slot → Text
  | .term text => normalize text
  | .operator op => op.symbol
  | .unclosed => ['(']

end Slot

namespace Pending

/-- The slot that an entry becomes when it leaves the stack at the end of the query. -/
def slot : Pending → Slot
  | .operator op => .operator op
  | .group _ => .unclosed

/-- The offset of an open group. -/
def groupOffset? : Pending → Option Nat
  | .operator _ => none
  | .group offset => some offset

/-- The operators on top of the stack that bind at least as tightly as `incoming`, topmost first,
and the stack without them. A group ends the search. -/
def flush (incoming : Operator) : List Pending → List Operator × List Pending
  | [] => ([], [])
  | .group offset :: stack => ([], .group offset :: stack)
  | .operator top :: stack =>
    if top.precedence < incoming.precedence then ([], .operator top :: stack)
    else
      let (popped, remaining) := flush incoming stack
      (top :: popped, remaining)

/-- The operators above the innermost group, topmost first, and the stack below that group, or
`none` if no group is open. -/
def closeGroup : List Pending → List Operator × Option (List Pending)
  | [] => ([], none)
  | .group _ :: stack => ([], some stack)
  | .operator top :: stack =>
    let (popped, remaining) := closeGroup stack
    (top :: popped, remaining)

end Pending

/-- What reading tokens does: the stack it leaves, and what it adds to the result. -/
structure Progress where
  /-- The stack afterwards, topmost entry first. -/
  stack : List Pending
  /-- The slots written. -/
  output : List Slot
  /-- The offsets of closing parentheses without a group. -/
  strays : List Nat
  /-- The operators flushed by arriving operators. -/
  flushes : List Flush
deriving DecidableEq, Repr

namespace Progress

/-- Read one token against a stack. -/
def step (stack : List Pending) (placed : PlacedToken) : Progress :=
  match placed.token with
  | .term text => ⟨stack, [.term text], [], []⟩
  | .openParen => ⟨.group placed.offset :: stack, [], [], []⟩
  | .closeParen =>
    match Pending.closeGroup stack with
    | (popped, some remaining) => ⟨remaining, popped.map .operator, [], []⟩
    | (popped, none) => ⟨[], popped.map .operator, [placed.offset], []⟩
  | .operator op =>
    if op.isUnary then ⟨.operator op :: stack, [], [], []⟩
    else
      let (popped, remaining) := Pending.flush op stack
      ⟨.operator op :: remaining, popped.map .operator, [], popped.map fun top => ⟨top, op⟩⟩

/-- Read tokens in order against a stack. -/
def run (stack : List Pending) : List PlacedToken → Progress
  | [] => ⟨stack, [], [], []⟩
  | placed :: tokens =>
    let first := step stack placed
    let later := run first.stack tokens
    ⟨later.stack, first.output ++ later.output, first.strays ++ later.strays,
      first.flushes ++ later.flushes⟩

end Progress

/-- The conversion of a whole list of tokens. -/
structure Conversion where
  /-- The result, terms not yet normalized. -/
  slots : List Slot
  /-- What is wrong with the tokens: stray closing parentheses, then groups never closed, each in
  the order of the query, or that there are no tokens at all. -/
  defects : List Diagnostic
  /-- The operators flushed by arriving operators, in order. -/
  flushes : List Flush
deriving DecidableEq, Repr

namespace Conversion

/-- Convert tokens. -/
def ofTokens (tokens : List PlacedToken) : Conversion :=
  let progress := Progress.run [] tokens
  let empty := if tokens.isEmpty then [⟨.emptyQuery, none, none⟩] else []
  let strays := progress.strays.map fun offset => ⟨.unmatchedClose, some offset, none⟩
  let unclosed := (progress.stack.filterMap Pending.groupOffset?).reverse.map fun offset =>
    ⟨.unmatchedOpen, some offset, none⟩
  ⟨progress.output ++ progress.stack.map Pending.slot, empty ++ strays ++ unclosed,
    progress.flushes⟩

/-- The elements of the result with terms written by `normalize`. -/
def write (normalize : Text → Text) (conversion : Conversion) : List Text :=
  conversion.slots.map (Slot.write normalize)

end Conversion
end BoolQuery
