import BoolQuery.Stemming.Choice

/-!
# Stemming of German

`ß` is written `ss` first, and `u` and `y` between vowels are written in upper case meanwhile. The
region `p1` starts behind the first consonant that follows a vowel and leaves at least three letters
before it; `p2` is the same within what follows. Umlauts are dropped at the end.
-/

namespace BoolQuery.Stemming.German

open Rule

/-- The vowels. -/
def vowels : Text := "aeiouyäöü"

/-- The letters after which a final `s` is an ending. -/
def beforeS : Text := "bdfghklmnrt"

/-- The letters after which a final `st` is an ending. -/
def beforeSt : Text := "bdfghklmnt"

/-- Read on past a vowel and then past a consonant. -/
def pastSyllable : Rule := seekPast (letter vowels) >> seekPast (otherThan vowels)

/-- Write `ß` as `ss` and mark `u` and `y` between vowels. -/
def prelude : Rule :=
  peek (many ((slice (literal "ß") >> rewrite "ss") <|> next)) >>
  many (seekTo (
    letter vowels >> openSlice >>
    ((literal "u" >> closeSlice >> letter vowels >> rewrite "U") <|>
      (literal "y" >> closeSlice >> letter vowels >> rewrite "Y"))))

/-- Find the regions. -/
def markRegions : Rule :=
  setMarkAtEnd .p1 >> setMarkAtEnd .p2 >>
  peek (hop 3 >> setMark .least) >>
  pastSyllable >> setMark .p1 >> optional (raiseMark .p1 .least) >>
  pastSyllable >> setMark .p2

/-- Write the marked letters in lower case again and drop umlauts. -/
def postlude : Rule :=
  many (sliceAmong skip (
    on ["Y"] (rewrite "y") ++
    on ["U"] (rewrite "u") ++
    on ["ä"] (rewrite "a") ++
    on ["ö"] (rewrite "o") ++
    on ["ü"] (rewrite "u") ++
    on [""] next))

/-- All suffixes. -/
def standardSuffix : Rule :=
  aside (sliceAmong (inRegion .p1) (
    on ["em", "ern", "er"] erase ++
    on ["e", "en", "es"] (erase >> optional (slice (literal "s") >> literal "nis" >> erase)) ++
    on ["s"] (letter beforeS >> erase))) >>
  aside (sliceAmong (inRegion .p1) (
    on ["en", "er", "est"] erase ++
    on ["st"] (letter beforeSt >> hop 3 >> erase))) >>
  aside (sliceAmong (inRegion .p2) (
    on ["end", "ung"] (
      erase >>
      optional (slice (literal "ig") >> absent (literal "e") >> inRegion .p2 >> erase)) ++
    on ["ig", "ik", "isch"] (absent (literal "e") >> erase) ++
    on ["lich", "heit"] (
      erase >> optional (slice (literal "er" <|> literal "en") >> inRegion .p1 >> erase)) ++
    on ["keit"] (
      erase >> optional (sliceAmong (inRegion .p2) (on ["lich", "ig"] erase)))))

/-- The stem of a German word. -/
def stem : Rule :=
  aside prelude >> aside markRegions >> fromEnd (aside standardSuffix) >> aside postlude

end BoolQuery.Stemming.German
