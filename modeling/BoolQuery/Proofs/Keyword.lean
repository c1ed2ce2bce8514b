import BoolQuery.Operator
import BoolQuery.Text.Blank
import Mathlib

/-!
# Keywords

`Spells` says how a word may write an operator, and `ofKeyword?_eq_some_iff` that exactly these
words are recognized. Keywords consist of letters and are written by one operator only.
-/

namespace BoolQuery

namespace Operator

/-- A word writes an operator if it is the keyword. With `anyCase` it may also become the keyword
once its letters `a` to `z` are made capital. -/
def Spells (anyCase : Bool) (op : Operator) (word : Text) : Prop :=
  if anyCase then word.map Char.toUpper = op.symbol else word = op.symbol

instance (anyCase : Bool) (op : Operator) (word : Text) : Decidable (op.Spells anyCase word) :=
  inferInstanceAs (Decidable (if anyCase then word.map Char.toUpper = op.symbol
    else word = op.symbol))

/-- Operators have different symbols. -/
theorem symbol_injective {op other : Operator} (same : op.symbol = other.symbol) : op = other := by
  cases op <;> cases other <;> first | rfl | simp [symbol] at same

/-- The list of all operators leaves none out. -/
theorem mem_all (op : Operator) : op ∈ all := by
  cases op <;> decide

/-- No symbol is empty. -/
theorem symbol_ne_nil (op : Operator) : op.symbol ≠ [] := by
  cases op <;> simp [symbol]

/-- Symbols are written in capital letters already. -/
theorem map_toUpper_symbol (op : Operator) : op.symbol.map Char.toUpper = op.symbol := by
  cases op <;> rfl

/-- Symbols consist of capital letters. -/
theorem isUpper_of_mem_symbol {op : Operator} {c : Char} (member : c ∈ op.symbol) :
    c.isUpper = true := by
  have capitals : ∀ c ∈ op.symbol, c.isUpper = true := by
    cases op <;> simp [symbol]
  exact capitals c member

/-- Symbols consist of letters. -/
theorem isAlpha_of_mem_symbol {op : Operator} {c : Char} (member : c ∈ op.symbol) :
    c.isAlpha = true := by
  rw [Char.isAlpha, isUpper_of_mem_symbol member, Bool.true_or]

/-- Two texts are the same up to the case of letters if one becomes the other in capital letters. -/
theorem equalIgnoringCase_symbol_iff {op : Operator} {word : Text} :
    Text.equalIgnoringCase word op.symbol = true ↔ word.map Char.toUpper = op.symbol := by
  have folds : ∀ text : Text, Text.foldAscii (text.map Char.toUpper) = Text.foldAscii text := by
    intro text
    simp [Text.foldAscii]
  have capitals : ∀ text : Text,
      (Text.foldAscii text).map Char.toUpper = text.map Char.toUpper := by
    intro text
    simp [Text.foldAscii]
  rw [Text.equalIgnoringCase, beq_iff_eq]
  constructor
  · intro same
    rw [← capitals, same, capitals, map_toUpper_symbol]
  · intro same
    rw [← same, folds]

/-- A word spells one operator at most. -/
theorem Spells.unique {anyCase : Bool} {op other : Operator} {word : Text}
    (spells : op.Spells anyCase word) (otherSpells : other.Spells anyCase word) : op = other := by
  cases anyCase with
  | true => exact symbol_injective (Eq.trans (Eq.symm spells) otherSpells)
  | false => exact symbol_injective (Eq.trans (Eq.symm spells) otherSpells)

/-- The recognized keywords are those that write an operator. -/
theorem ofKeyword?_eq_some_iff {anyCase : Bool} {op : Operator} {word : Text} :
    ofKeyword? anyCase word = some op ↔ op.Spells anyCase word := by
  have accepts : ∀ op : Operator, (if anyCase then Text.equalIgnoringCase word op.symbol
      else word == op.symbol) = true ↔ op.Spells anyCase word := by
    intro op
    cases anyCase with
    | true => simpa [Spells] using equalIgnoringCase_symbol_iff
    | false => simp [Spells]
  have recognized : ∀ op, ofKeyword? anyCase word = some op → op.Spells anyCase word := by
    intro op found
    rw [ofKeyword?] at found
    have accepted := List.find?_some found
    exact (accepts op).mp accepted
  constructor
  · exact recognized op
  · intro spells
    have some : (ofKeyword? anyCase word).isSome := by
      rw [ofKeyword?, List.find?_isSome]
      exact ⟨op, op.mem_all, (accepts op).mpr spells⟩
    obtain ⟨other, found⟩ := Option.isSome_iff_exists.mp some
    rw [found, (recognized other found).unique spells]

/-- A written keyword consists of letters. -/
theorem Spells.isAlpha {anyCase : Bool} {op : Operator} {word : Text}
    (spells : op.Spells anyCase word) {c : Char} (member : c ∈ word) : c.isAlpha = true := by
  cases anyCase with
  | true =>
      have capital : c.toUpper ∈ op.symbol := by
        rw [← (spells : word.map Char.toUpper = op.symbol)]
        exact List.mem_map_of_mem member
      rw [← Char.isUpper_toUpper_eq_isAlpha]
      exact isUpper_of_mem_symbol capital
  | false =>
      rw [(spells : word = op.symbol)] at member
      exact isAlpha_of_mem_symbol member

/-- The empty word spells no operator. -/
theorem Spells.filled {anyCase : Bool} {op : Operator} {word : Text}
    (spells : op.Spells anyCase word) : word ≠ [] := by
  rintro rfl
  cases anyCase with
  | true => exact op.symbol_ne_nil (Eq.symm spells)
  | false => exact op.symbol_ne_nil (Eq.symm spells)

end Operator

/-- The code points of ASCII letters. -/
theorem Text.toNat_of_isAlpha {c : Char} (letter : c.isAlpha = true) :
    0x41 ≤ c.toNat ∧ c.toNat ≤ 0x5A ∨ 0x61 ≤ c.toNat ∧ c.toNat ≤ 0x7A := by
  simpa [Char.isAlpha, Char.isUpper, Char.isLower, UInt32.le_iff_toNat_le, ← Char.toNat_val]
    using letter

/-- No character is in a set whose ranges all stay clear of where the character lies. -/
theorem CharSet.holds_eq_false {set : CharSet} {first last : Nat} {c : Char}
    (apart : ∀ range ∈ set, range.last < first ∨ last < range.first)
    (atLeast : first ≤ c.toNat) (atMost : c.toNat ≤ last) : set.holds c = false := by
  rw [Bool.eq_false_iff, ne_eq, holds, List.any_eq_true]
  rintro ⟨range, member, covered⟩
  simp only [CharRange.covers, Bool.and_eq_true, decide_eq_true_eq] at covered
  have bounds := apart range member
  omega

/-- No letter is blank. -/
theorem Text.not_isBlank_of_isAlpha {c : Char} (letter : c.isAlpha = true) :
    Text.isBlank c = false := by
  have code := Text.toNat_of_isAlpha letter
  have apart : ∀ range ∈ Text.blanks, range.last < 0x41 ∨ 0x7A < range.first := by decide
  exact CharSet.holds_eq_false apart (by omega) (by omega)

end BoolQuery
