import BoolQuery.Text.EmojiModifierBase
import BoolQuery.Text.Wide

/-!
# Columns of a text

How many columns of a terminal a text without control and combining characters takes. Most
characters take one column, wide ones two, a few none or three. Some pairs are drawn as one: in
front of a partner that joins with it, the first of them takes no column.
-/

namespace BoolQuery.Text

/-- Characters that take no column: vowels and final consonants of Hangul syllables, Hangul fillers
and a caret of Devanagari. -/
def columnlessChars : CharSet :=
  [⟨0x1160, 0x11FF⟩, ⟨0x3164, 0x3164⟩, ⟨0xA8FA, 0xA8FA⟩, ⟨0xD7B0, 0xD7C6⟩, ⟨0xD7CB, 0xD7FB⟩,
   ⟨0xFFA0, 0xFFA0⟩]

/-- Characters as wide as two letters that do not count as wide: a Khmer vowel and a dash. -/
def doubleChars : CharSet :=
  [⟨0x17A4, 0x17A4⟩, ⟨0x2E3A, 0x2E3A⟩]

/-- Characters as wide as three letters: a Khmer sign and a dash. -/
def tripleChars : CharSet :=
  [⟨0x17D8, 0x17D8⟩, ⟨0x2E3B, 0x2E3B⟩]

/-- The columns that a character takes on its own. -/
def charColumns (c : Char) : Nat :=
  if columnlessChars.holds c then 0
  else if tripleChars.holds c then 3
  else if doubleChars.holds c || wideChars.holds c then 2
  else 1

/-- The forms of the Arabic letter lam. -/
def lamChars : CharSet :=
  [⟨0x0644, 0x0644⟩, ⟨0x06B5, 0x06B8⟩, ⟨0x076A, 0x076A⟩, ⟨0x08A6, 0x08A6⟩, ⟨0x08C7, 0x08C7⟩]

/-- The forms of the Arabic letter alef. -/
def alefChars : CharSet :=
  [⟨0x0622, 0x0623⟩, ⟨0x0625, 0x0625⟩, ⟨0x0627, 0x0627⟩, ⟨0x0671, 0x0673⟩, ⟨0x0675, 0x0675⟩,
   ⟨0x0773, 0x0774⟩, ⟨0x0870, 0x0882⟩]

/-- The first part of combined tone letters in Lisu. -/
def lisuFirstChars : CharSet := [⟨0xA4F8, 0xA4FB⟩]

/-- The second part of combined tone letters in Lisu. -/
def lisuSecondChars : CharSet := [⟨0xA4FC, 0xA4FD⟩]

/-- The skin tones. -/
def emojiModifierChars : CharSet := [⟨0x1F3FB, 0x1F3FF⟩]

/-- Whether two neighbouring characters are drawn as one. -/
def joins (first second : Char) : Bool :=
  (lamChars.holds first && alefChars.holds second) ||
    (lisuFirstChars.holds first && lisuSecondChars.holds second) ||
    (emojiModifierBaseChars.holds first && emojiModifierChars.holds second)

/-- The columns that a text takes. -/
def columns : Text → Nat
  | [] => 0
  | c :: rest => (if rest.head?.any (joins c) then 0 else charColumns c) + columns rest

end BoolQuery.Text
