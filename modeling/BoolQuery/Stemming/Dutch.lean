import BoolQuery.Stemming.Choice

/-!
# Stemming of Dutch

Accents other than that of `è` are dropped first, and `y` and `i` that act as consonants are
written in upper case meanwhile. The region `p1` starts behind the first consonant that follows a
vowel but not within the first three bytes of the word, and `p2` is the same within what follows.
-/

namespace BoolQuery.Stemming.Dutch

open Rule

/-- The vowels. -/
def vowels : Text := "aeiouyè"

/-- The vowels and a consonant `i`. -/
def vowelsAndI : Text := "aeiouyèI"

/-- The vowels and `j`. -/
def vowelsAndJ : Text := "aeiouyèj"

/-- Read on past a vowel and then past a consonant. -/
def pastSyllable : Rule := seekPast (letter vowels) >> seekPast (otherThan vowels)

/-- Drop accents and mark `y` and `i` that act as consonants. -/
def prelude : Rule :=
  peek (many (sliceAmong skip (
    on ["ä", "á"] (rewrite "a") ++
    on ["ë", "é"] (rewrite "e") ++
    on ["ï", "í"] (rewrite "i") ++
    on ["ö", "ó"] (rewrite "o") ++
    on ["ü", "ú"] (rewrite "u") ++
    on [""] next))) >>
  optional (slice (literal "y") >> rewrite "Y") >>
  many (seekTo (
    letter vowels >> openSlice >>
    ((literal "i" >> closeSlice >> letter vowels >> rewrite "I") <|>
      (literal "y" >> closeSlice >> rewrite "Y"))))

/-- The number of characters that start within the first bytes of a text, if one-byte characters
followed the text. -/
def leadingCharacters : Text → (bytes : Nat) → Nat
  | [], bytes => bytes
  | c :: rest, bytes =>
    if bytes = 0 then 0 else leadingCharacters rest (bytes - c.utf8Size) + 1

/-- Move the first region behind the first three bytes of the word. -/
def skipThreeBytes : Rule := ⟨fun scan =>
  if Text.byteLength (scan.word.take (scan.marks .p1)) < 3 then
    (true, scan.setMark .p1 (leadingCharacters scan.word 3))
  else (false, scan)⟩

/-- Find the regions. -/
def markRegions : Rule :=
  setMarkAtEnd .p1 >> setMarkAtEnd .p2 >>
  pastSyllable >> setMark .p1 >> optional skipThreeBytes >>
  pastSyllable >> setMark .p2

/-- Write the marked letters in lower case again. -/
def postlude : Rule :=
  many (sliceAmong skip (
    on ["Y"] (rewrite "y") ++
    on ["I"] (rewrite "i") ++
    on [""] next))

/-- A doubled consonant at the end. -/
def undouble : Rule :=
  peek (oneOf ["kk", "dd", "tt"]) >> slice next >> erase

/-- A final `e` behind a consonant. -/
def finalE : Rule :=
  clearFlag >>
  slice (literal "e") >> inRegion .p1 >> peek (otherThan vowels) >> erase >>
  setFlag >> undouble

/-- The ending `-en` and its like, already made the slice. -/
def finalEn : Rule :=
  inRegion .p1 >> both (otherThan vowels) (absent (literal "gem")) >> erase >> undouble

/-- All suffixes. -/
def standardSuffix : Rule :=
  aside (sliceAmong skip (
    on ["heden"] (inRegion .p1 >> rewrite "heid") ++
    on ["en", "ene"] finalEn ++
    on ["s", "se"] (inRegion .p1 >> otherThan vowelsAndJ >> erase))) >>
  aside finalE >>
  aside (
    slice (literal "heid") >> inRegion .p2 >> absent (literal "c") >> erase >>
    slice (literal "en") >> finalEn) >>
  aside (sliceAmong skip (
    on ["end", "ing"] (
      inRegion .p2 >> erase >>
      ((slice (literal "ig") >> inRegion .p2 >> absent (literal "e") >> erase) <|> undouble)) ++
    on ["ig"] (inRegion .p2 >> absent (literal "e") >> erase) ++
    on ["lijk"] (inRegion .p2 >> erase >> finalE) ++
    on ["baar"] (inRegion .p2 >> erase) ++
    on ["bar"] (inRegion .p2 >> flagged >> erase))) >>
  aside (
    otherThan vowelsAndI >>
    peek (oneOf ["aa", "ee", "oo", "uu"] >> otherThan vowels) >>
    slice next >> erase)

/-- The stem of a Dutch word. -/
def stem : Rule :=
  aside prelude >> aside markRegions >> fromEnd (aside standardSuffix) >> aside postlude

end BoolQuery.Stemming.Dutch
