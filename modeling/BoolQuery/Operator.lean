import BoolQuery.Text.Basic

/-!
# Boolean operators

The three operators of the query language, how tightly each binds, and the keywords that write
them.
-/

namespace BoolQuery

/-- A boolean operator. -/
inductive Operator where
  /-- Unary negation, written before its operand. -/
  | not
  /-- Conjunction. -/
  | and
  /-- Disjunction. -/
  | or
deriving DecidableEq, Repr

namespace Operator

/-- Every operator, tightest binding first. -/
def all : List Operator := [.not, .and, .or]

/-- How tightly an operator binds; a higher level binds tighter. -/
def precedence : Operator → Nat
  | .not => 3
  | .and => 2
  | .or => 1

/-- The canonical keyword, which is also the element that stands for the operator in postfix
order. -/
def symbol : Operator → Text
  | .not => ['N', 'O', 'T']
  | .and => ['A', 'N', 'D']
  | .or => ['O', 'R']

/-- Whether the operator takes a single operand. -/
def isUnary : Operator → Bool
  | .not => true
  | .and | .or => false

/-- The operator that a word writes. With `anyCase` the letters of the keyword may be of either
case; otherwise the word has to be the canonical keyword. -/
def ofKeyword? (anyCase : Bool) (word : Text) : Option Operator :=
  all.find? fun op => if anyCase then Text.equalIgnoringCase word op.symbol else word == op.symbol

end Operator
end BoolQuery
