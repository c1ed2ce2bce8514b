import BoolQuery.Text.Basic

/-!
# Sets of characters given by ranges of code points

The character properties of the Unicode standard are finite unions of code point ranges. A
`CharSet` is such a union; membership is a search through its ranges.
-/

namespace BoolQuery

/-- The code points from `first` to `last`, both included. -/
structure CharRange where
  first : Nat
  last : Nat
deriving DecidableEq, Repr

/-- A finite union of code point ranges. -/
abbrev CharSet := List CharRange

namespace CharRange

/-- Whether a code point lies in the range. -/
def covers (range : CharRange) (codePoint : Nat) : Bool :=
  range.first ≤ codePoint && codePoint ≤ range.last

end CharRange

namespace CharSet

/-- Whether a character lies in one of the ranges. -/
def holds (set : CharSet) (c : Char) : Bool :=
  set.any fun range => range.covers c.toNat

end CharSet
end BoolQuery
