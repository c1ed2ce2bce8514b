import BoolQuery.Text.CharSet

/-!
# Blank characters and trimming

Blank characters are those with the Unicode property `White_Space`, twenty-five in all. `trim`
removes the runs of blank characters at both ends of a text and nothing else.
-/

namespace BoolQuery.Text

/-- The characters with the property `White_Space`. -/
def blanks : CharSet :=
  [⟨0x0009, 0x000D⟩, ⟨0x0020, 0x0020⟩, ⟨0x0085, 0x0085⟩, ⟨0x00A0, 0x00A0⟩, ⟨0x1680, 0x1680⟩,
   ⟨0x2000, 0x200A⟩, ⟨0x2028, 0x2029⟩, ⟨0x202F, 0x202F⟩, ⟨0x205F, 0x205F⟩, ⟨0x3000, 0x3000⟩]

/-- Whether a character is blank. -/
def isBlank (c : Char) : Bool :=
  blanks.holds c

/-- A text without the blank characters at its start. -/
def trimStart (text : Text) : Text :=
  text.dropWhile isBlank

/-- A text without the blank characters at its end. -/
def trimEnd (text : Text) : Text :=
  (text.reverse.dropWhile isBlank).reverse

/-- A text without the blank characters at either end. -/
def trim (text : Text) : Text :=
  trimEnd (trimStart text)

end BoolQuery.Text
