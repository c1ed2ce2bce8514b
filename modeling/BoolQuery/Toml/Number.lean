import BoolQuery.Toml.Escape

/-!
# Number literals

A number literal is an integer, in base ten with a sign or in base 2, 8 or 16 without one, a decimal
fraction, an infinity or not a number. Single underscores may stand between digits, and a number in
base ten has no leading zeros. A literal keeps its exact value, whatever its size; which values a
reader of settings can represent is a separate question, answered by `isRepresentable`.
-/

namespace BoolQuery.Toml

/-- The value of a number literal. -/
inductive Number where
  | integer (value : Int)
  /-- The significand times ten to the power of the exponent, with a sign. -/
  | decimal (negative : Bool) (significand : Nat) (exponent : Int)
  | infinity (negative : Bool)
  | nan
deriving DecidableEq, Repr

namespace Number

/-- The digits at the start of a text, without the single underscores that may stand between two of
them, and the rest of the text. `behindDigit` tells whether a digit stands directly before. -/
def digitRun (isDigit : Char → Bool) : (behindDigit : Bool) → Text → Text × Text
  | _, [] => ([], [])
  | behindDigit, c :: rest =>
    if isDigit c then
      let (digits, after) := digitRun isDigit true rest
      (c :: digits, after)
    else if behindDigit && c == '_' && rest.head?.any isDigit then digitRun isDigit false rest
    else ([], c :: rest)

/-- The value of digits in a base. -/
def ofDigits (base : Nat) (digits : Text) : Nat :=
  digits.foldl (fun value digit => base * value + (Text.hexValue? digit).getD 0) 0

/-- An integer without a sign in a base other than ten, behind its mark. -/
def ofBase? (base : Nat) (text : Text) : Option Number :=
  let isDigit := fun c => (Text.hexValue? c).any (· < base)
  match digitRun isDigit false text with
  | ([], _) => none
  | (digits, []) => some (.integer (ofDigits base digits))
  | (_, _ :: _) => none

/-- Split an optional sign from a text. -/
def splitSign : Text → Bool × Text
  | '-' :: rest => (true, rest)
  | '+' :: rest => (false, rest)
  | text => (false, text)

/-- The exponent that a text consists of, zero if the text is empty. -/
def exponent? : Text → Option Int
  | [] => some 0
  | c :: rest =>
    if c == 'e' || c == 'E' then
      let (negative, digits) := splitSign rest
      match digitRun Char.isDigit false digits with
      | ([], _) => none
      | (digits, []) =>
        let size : Int := ofDigits 10 digits
        some (if negative then -size else size)
      | (_, _ :: _) => none
    else none

/-- A number in base ten behind its sign. -/
def ofDecimal? (negative : Bool) (text : Text) : Option Number :=
  match digitRun Char.isDigit false text with
  | ([], _) => none
  | ('0' :: _ :: _, _) => none
  | (whole, []) =>
    let size : Int := ofDigits 10 whole
    some (.integer (if negative then -size else size))
  | (whole, '.' :: rest) =>
    match digitRun Char.isDigit false rest with
    | ([], _) => none
    | (fraction, after) => (exponent? after).map fun exponent =>
        .decimal negative (ofDigits 10 (whole ++ fraction)) (exponent - fraction.length)
  | (whole, after) => (exponent? after).map (.decimal negative (ofDigits 10 whole))

/-- The number that a word denotes. -/
def ofWord? : Text → Option Number
  | '0' :: 'x' :: rest => ofBase? 16 rest
  | '0' :: 'o' :: rest => ofBase? 8 rest
  | '0' :: 'b' :: rest => ofBase? 2 rest
  | word =>
    let (negative, unsigned) := splitSign word
    if unsigned == "inf".toList then some (.infinity negative)
    else if unsigned == "nan".toList then some .nan
    else ofDecimal? negative unsigned

/-- The least number that rounds to infinity in double precision: halfway between the greatest
finite double and the next power of two. -/
def overflowBound : Nat :=
  Nat.pow 2 1024 - Nat.pow 2 970

/-- Whether a significand with a decimal exponent rounds to a finite double. The first two tests
decide all numbers of extreme size without computing a power. -/
def fitsDouble (significand : Nat) (exponent : Int) : Bool :=
  let magnitude : Int := (Nat.toDigits 10 significand).length + exponent
  if significand == 0 || magnitude ≤ 308 then true
  else if magnitude > 310 then false
  else if 0 ≤ exponent then significand * Nat.pow 10 exponent.toNat < overflowBound
  else significand < overflowBound * Nat.pow 10 (-exponent).toNat

/-- Whether an integer fits into 128 bits, with a sign or without one. -/
def fitsInteger (value : Int) : Bool :=
  if value < 0 then value.natAbs ≤ Nat.pow 2 127 else value.natAbs < Nat.pow 2 128

/-- Whether a number can be represented: integers in 128 bits, and decimal fractions as finite
doubles. -/
def isRepresentable : Number → Bool
  | .integer value => fitsInteger value
  | .decimal _ significand exponent => fitsDouble significand exponent
  | .infinity _ | .nan => true

end Number
end BoolQuery.Toml
