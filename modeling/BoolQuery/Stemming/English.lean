import BoolQuery.Stemming.Choice

/-!
# Stemming of English

Endings are removed in five steps from the end of the word. The region `p1` starts behind the first
consonant that follows a vowel, `p2` is the same within `p1`. A `y` that acts as a consonant is
written `Y` meanwhile. A few words are exceptions with stems of their own.
-/

namespace BoolQuery.Stemming.English

open Rule

/-- The vowels. -/
def vowels : Text := "aeiouy"

/-- The letters that do not end a short syllable. -/
def vowelsAndSemivowels : Text := "aeiouywxY"

/-- The letters after which `-li` is an ending. -/
def beforeLi : Text := "cdeghkmnrt"

/-- Read on past a vowel and then past a consonant. -/
def pastSyllable : Rule := seekPast (letter vowels) >> seekPast (otherThan vowels)

/-- Drop a leading apostrophe and mark each `y` that acts as a consonant. -/
def prelude : Rule :=
  clearFlag >>
  aside (slice (literal "'") >> erase) >>
  aside (slice (literal "y") >> rewrite "Y" >> setFlag) >>
  aside (many (seekTo (letter vowels >> slice (literal "y")) >> rewrite "Y" >> setFlag))

/-- Find the regions. -/
def markRegions : Rule :=
  setMarkAtEnd .p1 >> setMarkAtEnd .p2 >>
  aside (
    (oneOf ["gener", "commun", "arsen"] <|> pastSyllable) >> setMark .p1 >>
    pastSyllable >> setMark .p2)

/-- A short syllable, read backwards. -/
def shortSyllable : Rule :=
  (otherThan vowelsAndSemivowels >> letter vowels >> otherThan vowels) <|>
  (otherThan vowels >> letter vowels >> atLimit)

/-- Possessives and plurals. -/
def plural : Rule :=
  optional (sliceAmong skip (on ["'", "'s", "'s'"] erase)) >>
  sliceAmong skip (
    on ["sses"] (rewrite "ss") ++
    on ["ied", "ies"] ((hop 2 >> rewrite "i") <|> rewrite "ie") ++
    on ["s"] (next >> seekPast (letter vowels) >> erase) ++
    on ["us", "ss"] skip)

/-- Past tenses and participles; what is left may get its `e` back or lose a doubled letter. -/
def participle : Rule :=
  sliceAmong skip (
    on ["eed", "eedly"] (inRegion .p1 >> rewrite "ee") ++
    on ["ed", "edly", "ing", "ingly"] (
      peek (seekPast (letter vowels)) >> erase >>
      peekAmong (
        on ["at", "bl", "iz"] (insert "e") ++
        on ["bb", "dd", "ff", "gg", "mm", "nn", "pp", "rr", "tt"] (slice next >> erase) ++
        on [""] (atMark .p1 >> peek shortSyllable >> insert "e"))))

/-- A final `y` behind a consonant. -/
def finalY : Rule :=
  slice (literal "y" <|> literal "Y") >> otherThan vowels >> absent atLimit >> rewrite "i"

/-- Double suffixes become single ones. -/
def doubleSuffix : Rule :=
  sliceAmong (inRegion .p1) (
    on ["tional"] (rewrite "tion") ++
    on ["enci"] (rewrite "ence") ++
    on ["anci"] (rewrite "ance") ++
    on ["abli"] (rewrite "able") ++
    on ["entli"] (rewrite "ent") ++
    on ["izer", "ization"] (rewrite "ize") ++
    on ["ational", "ation", "ator"] (rewrite "ate") ++
    on ["alism", "aliti", "alli"] (rewrite "al") ++
    on ["fulness"] (rewrite "ful") ++
    on ["ousli", "ousness"] (rewrite "ous") ++
    on ["iveness", "iviti"] (rewrite "ive") ++
    on ["biliti", "bli"] (rewrite "ble") ++
    on ["ogi"] (literal "l" >> rewrite "og") ++
    on ["fulli"] (rewrite "ful") ++
    on ["lessli"] (rewrite "less") ++
    on ["li"] (letter beforeLi >> erase))

/-- Further derivational suffixes. -/
def derivation : Rule :=
  sliceAmong (inRegion .p1) (
    on ["tional"] (rewrite "tion") ++
    on ["ational"] (rewrite "ate") ++
    on ["alize"] (rewrite "al") ++
    on ["icate", "iciti", "ical"] (rewrite "ic") ++
    on ["ful", "ness"] erase ++
    on ["ative"] (inRegion .p2 >> erase))

/-- Suffixes that go when they lie in the second region. -/
def residue : Rule :=
  sliceAmong (inRegion .p2) (
    on ["al", "ance", "ence", "er", "ic", "able", "ible", "ant", "ement", "ment", "ent", "ism",
      "ate", "iti", "ous", "ive", "ize"] erase ++
    on ["ion"] ((literal "s" <|> literal "t") >> erase))

/-- A final `e` or a doubled `l`. -/
def tidy : Rule :=
  sliceAmong skip (
    on ["e"] ((inRegion .p2 <|> (inRegion .p1 >> absent shortSyllable)) >> erase) ++
    on ["l"] (inRegion .p2 >> literal "l" >> erase))

/-- Words that are left alone once their plural ending is gone. -/
def settled : Rule :=
  sliceAmong atLimit (
    on ["inning", "outing", "canning", "herring", "earring", "proceed", "exceed", "succeed"] skip)

/-- Words with a stem of their own. -/
def exception : Rule :=
  sliceAmong atLimit (
    on ["skis"] (rewrite "ski") ++
    on ["skies"] (rewrite "sky") ++
    on ["dying"] (rewrite "die") ++
    on ["lying"] (rewrite "lie") ++
    on ["tying"] (rewrite "tie") ++
    on ["idly"] (rewrite "idl") ++
    on ["gently"] (rewrite "gentl") ++
    on ["ugly"] (rewrite "ugli") ++
    on ["early"] (rewrite "earli") ++
    on ["only"] (rewrite "onli") ++
    on ["singly"] (rewrite "singl") ++
    on ["sky", "news", "howe", "atlas", "cosmos", "bias", "andes"] skip)

/-- Write each marked `Y` as a letter of the word again. -/
def postlude : Rule :=
  flagged >> many (seekTo (slice (literal "Y")) >> rewrite "y")

/-- The stem of an English word. -/
def stem : Rule :=
  exception <|> absent (hop 3) <|>
    (aside prelude >> aside markRegions >>
      fromEnd (
        aside plural >>
        (settled <|>
          (aside participle >> aside finalY >> aside doubleSuffix >> aside derivation >>
            aside residue >> aside tidy))) >>
      aside postlude)

end BoolQuery.Stemming.English
