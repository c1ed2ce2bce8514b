import BoolQuery.Text.Basic

/-!
# Hexadecimal digits and code points

Escapes name characters by the hexadecimal digits of their code points.
-/

namespace BoolQuery.Text

/-- The value of a hexadecimal digit in either case. -/
def hexValue? (c : Char) : Option Nat :=
  if c.isDigit then some (c.toNat - '0'.toNat)
  else if 'a' ≤ c && c ≤ 'f' then some (c.toNat - 'a'.toNat + 10)
  else if 'A' ≤ c && c ≤ 'F' then some (c.toNat - 'A'.toNat + 10)
  else none

/-- The hexadecimal digits of a number in lower case. -/
def hexDigits (n : Nat) : Text :=
  Nat.toDigits 16 n

/-- Two hexadecimal digits of a number below 256 in lower case. -/
def hexPair (n : Nat) : Text :=
  [Nat.digitChar (n / 16), Nat.digitChar (n % 16)]

/-- The character with a given code point; surrogates have none. -/
def codePoint? (n : Nat) : Option Char :=
  if n.isValidChar then some (Char.ofNat n) else none

end BoolQuery.Text
