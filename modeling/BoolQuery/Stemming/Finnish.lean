import BoolQuery.Stemming.Choice

/-!
# Stemming of Finnish

Particles, possessives, case endings and other inflections are removed in turn. The region `p1`
starts behind the first consonant that follows a vowel, `p2` is the same within what follows.
-/

namespace BoolQuery.Stemming.Finnish

open Rule

/-- The vowels that can be dropped from the end of a stem. -/
def frontVowels : Text := "aäei"

/-- The vowels. -/
def vowels : Text := "aeiouyäö"

/-- The vowels that can follow `i` in a plural. -/
def vowelsWithoutY : Text := "aeiouäö"

/-- The letters that particles follow. -/
def beforeParticle : Text := "aeiouyäönt"

/-- Find the regions. -/
def markRegions : Rule :=
  setMarkAtEnd .p1 >> setMarkAtEnd .p2 >>
  seekTo (letter vowels) >> seekPast (otherThan vowels) >> setMark .p1 >>
  seekTo (letter vowels) >> seekPast (otherThan vowels) >> setMark .p2

/-- Particles and the like. -/
def particle : Rule :=
  sliceAmongWithin .p1 (
    on ["kin", "kaan", "kään", "ko", "kö", "han", "hän", "pa", "pä"] (letter beforeParticle) ++
    on ["sti"] (inRegion .p2)) >>
  erase

/-- Possessive endings. -/
def possessive : Rule :=
  sliceAmongWithin .p1 (
    on ["si"] (absent (literal "k") >> erase) ++
    on ["ni"] (erase >> slice (literal "kse") >> rewrite "ksi") ++
    on ["nsa", "nsä", "mme", "nne"] erase ++
    on ["an"] (oneOf ["ta", "ssa", "sta", "lla", "lta", "na"] >> erase) ++
    on ["än"] (oneOf ["tä", "ssä", "stä", "llä", "ltä", "nä"] >> erase) ++
    on ["en"] (oneOf ["lle", "ine"] >> erase))

/-- A long vowel, read backwards. -/
def longVowel : Rule := oneOf ["aa", "ee", "ii", "oo", "uu", "ää", "öö"]

/-- A vowel and `i`, read backwards. -/
def vowelBeforeI : Rule := literal "i" >> letter vowelsWithoutY

/-- Case endings. -/
def caseEnding : Rule :=
  sliceAmongWithin .p1 (
    on ["han"] (literal "a") ++
    on ["hen"] (literal "e") ++
    on ["hin"] (literal "i") ++
    on ["hon"] (literal "o") ++
    on ["hän"] (literal "ä") ++
    on ["hön"] (literal "ö") ++
    onGuarded vowelBeforeI ["siin"] skip ++
    onGuarded longVowel ["seen"] skip ++
    onGuarded vowelBeforeI ["den", "tten"] skip ++
    on ["n"] (optional (both (longVowel <|> literal "ie") next >> closeSlice)) ++
    on ["a", "ä"] (letter vowels >> otherThan vowels) ++
    on ["tta", "ttä"] (literal "e") ++
    on ["ta", "tä", "ssa", "ssä", "sta", "stä", "lla", "llä", "lta", "ltä", "lle", "na", "nä",
      "ksi", "ine"] skip) >>
  erase >> setFlag

/-- Comparatives, superlatives and agents. -/
def otherEndings : Rule :=
  sliceAmongWithin .p2 (
    on ["mpi", "mpa", "mpä", "mmi", "mma", "mmä"] (absent (literal "po")) ++
    on ["impi", "impa", "impä", "immi", "imma", "immä", "eja", "ejä"] skip) >>
  erase

/-- The plural marker `i` or `j`. -/
def pluralI : Rule :=
  sliceAmongWithin .p1 (on ["i", "j"] skip) >> erase

/-- The plural marker `t`. -/
def pluralT : Rule :=
  within .p1 (slice (literal "t") >> peek (letter vowels) >> erase) >>
  sliceAmongWithin .p2 (
    on ["mma"] (absent (literal "po")) ++
    on ["imma"] skip) >>
  erase

/-- Long vowels, stray vowels and doubled consonants at the end. -/
def tidy : Rule :=
  within .p1 (
    aside (both longVowel (slice next >> erase)) >>
    aside (slice (letter frontVowels) >> otherThan vowels >> erase) >>
    aside (slice (literal "j") >> (literal "o" <|> literal "u") >> erase) >>
    aside (slice (literal "o") >> literal "j" >> erase)) >>
  seekTo (otherThan vowels) >> slice next >> saveSlice >> savedText >> erase

/-- The stem of a Finnish word. -/
def stem : Rule :=
  aside markRegions >> clearFlag >>
  fromEnd (
    aside particle >> aside possessive >> aside caseEnding >> aside otherEndings >>
    ((flagged >> aside pluralI) <|> aside pluralT) >>
    aside tidy)

end BoolQuery.Stemming.Finnish
