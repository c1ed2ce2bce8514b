import BoolQuery.Stemming.Choice

/-!
# Stemming of French

The letters `u`, `i` and `y` are written in upper case meanwhile where they act as consonants. The
verb region `pV` starts behind two leading vowels and a letter, behind one of three beginnings, or
behind the first vowel that is not the first letter; `p1` and `p2` start behind the first and the
second consonant that follows a vowel.
-/

namespace BoolQuery.Stemming.French

open Rule

/-- The vowels. -/
def vowels : Text := "aeiouyâàëéêèïîôûù"

/-- The letters before which a final `s` stays. -/
def keepingS : Text := "aiouès"

/-- Read on past a vowel and then past a consonant. -/
def pastSyllable : Rule := seekPast (letter vowels) >> seekPast (otherThan vowels)

/-- Mark the letters that act as consonants. -/
def prelude : Rule :=
  many (seekTo (
    (letter vowels >> openSlice >>
      ((literal "u" >> closeSlice >> letter vowels >> rewrite "U") <|>
        (literal "i" >> closeSlice >> letter vowels >> rewrite "I") <|>
        (literal "y" >> closeSlice >> rewrite "Y"))) <|>
    (slice (literal "y") >> letter vowels >> rewrite "Y") <|>
    (literal "q" >> slice (literal "u") >> rewrite "U")))

/-- Find the regions. -/
def markRegions : Rule :=
  setMarkAtEnd .pV >> setMarkAtEnd .p1 >> setMarkAtEnd .p2 >>
  aside (
    ((letter vowels >> letter vowels >> next) <|>
      oneOf ["par", "col", "tap"] <|>
      (next >> seekPast (letter vowels))) >>
    setMark .pV) >>
  aside (
    pastSyllable >> setMark .p1 >>
    pastSyllable >> setMark .p2)

/-- Write the marked letters in lower case again. -/
def postlude : Rule :=
  many (sliceAmong skip (
    on ["I"] (rewrite "i") ++
    on ["U"] (rewrite "u") ++
    on ["Y"] (rewrite "y") ++
    on [""] next))

/-- Take the slice away if it lies in the second region. -/
def eraseInSecond : Rule := inRegion .p2 >> erase

/-- Suffixes of nouns, adjectives and adverbs. -/
def standardSuffix : Rule :=
  sliceAmong skip (
    on ["ance", "iqUe", "isme", "able", "iste", "eux", "ances", "iqUes", "ismes", "ables",
      "istes"] eraseInSecond ++
    on ["atrice", "ateur", "ation", "atrices", "ateurs", "ations"] (
      eraseInSecond >>
      optional (slice (literal "ic") >> (eraseInSecond <|> rewrite "iqU"))) ++
    on ["logie", "logies"] (inRegion .p2 >> rewrite "log") ++
    on ["usion", "ution", "usions", "utions"] (inRegion .p2 >> rewrite "u") ++
    on ["ence", "ences"] (inRegion .p2 >> rewrite "ent") ++
    on ["ement", "ements"] (
      inRegion .pV >> erase >>
      optional (sliceAmong skip (
        on ["iv"] (eraseInSecond >> slice (literal "at") >> eraseInSecond) ++
        on ["eus"] (eraseInSecond <|> (inRegion .p1 >> rewrite "eux")) ++
        on ["abl", "iqU"] eraseInSecond ++
        on ["ièr", "Ièr"] (inRegion .pV >> rewrite "i")))) ++
    on ["ité", "ités"] (
      eraseInSecond >>
      optional (sliceAmong skip (
        on ["abil"] (eraseInSecond <|> rewrite "abl") ++
        on ["ic"] (eraseInSecond <|> rewrite "iqU") ++
        on ["iv"] eraseInSecond))) ++
    on ["if", "ive", "ifs", "ives"] (
      eraseInSecond >>
      optional (
        slice (literal "at") >> eraseInSecond >>
        slice (literal "ic") >> (eraseInSecond <|> rewrite "iqU"))) ++
    on ["eaux"] (rewrite "eau") ++
    on ["aux"] (inRegion .p1 >> rewrite "al") ++
    on ["euse", "euses"] (eraseInSecond <|> (inRegion .p1 >> rewrite "eux")) ++
    on ["issement", "issements"] (inRegion .p1 >> otherThan vowels >> erase) ++
    on ["amment"] (inRegion .pV >> failAfter (rewrite "ant")) ++
    on ["emment"] (inRegion .pV >> failAfter (rewrite "ent")) ++
    on ["ment", "ments"] (peek (letter vowels >> inRegion .pV) >> failAfter erase))

/-- Suffixes of verbs whose infinitive ends in `-ir`. -/
def verbSuffixI : Rule :=
  within .pV (sliceAmong skip (
    on ["îmes", "ît", "îtes", "i", "ie", "ies", "ir", "ira", "irai", "iraIent", "irais", "irait",
      "iras", "irent", "irez", "iriez", "irions", "irons", "iront", "is", "issaIent", "issais",
      "issait", "issant", "issante", "issantes", "issants", "isse", "issent", "isses", "issez",
      "issiez", "issions", "issons", "it"] (otherThan vowels >> erase)))

/-- Suffixes of other verbs. -/
def verbSuffix : Rule :=
  within .pV (sliceAmong skip (
    on ["ions"] eraseInSecond ++
    on ["é", "ée", "ées", "és", "èrent", "er", "era", "erai", "eraIent", "erais", "erait",
      "eras", "erez", "eriez", "erions", "erons", "eront", "ez", "iez"] erase ++
    on ["âmes", "ât", "âtes", "a", "ai", "aIent", "ais", "ait", "ant", "ante", "antes", "ants",
      "as", "asse", "assent", "asses", "assiez", "assions"] (
      erase >> optional (slice (literal "e") >> erase))))

/-- What is left of a suffix. -/
def residualSuffix : Rule :=
  optional (slice (literal "s") >> peek (otherThan keepingS) >> erase) >>
  within .pV (sliceAmong skip (
    on ["ion"] (inRegion .p2 >> (literal "s" <|> literal "t") >> erase) ++
    on ["ier", "ière", "Ier", "Ière"] (rewrite "i") ++
    on ["e"] erase ++
    on ["ë"] (literal "gu" >> erase)))

/-- A doubled consonant at the end. -/
def undouble : Rule :=
  peek (oneOf ["enn", "onn", "ett", "ell", "eill"]) >> slice next >> erase

/-- An accented `e` before the final consonants. -/
def dropAccent : Rule :=
  atLeastOnce (otherThan vowels) >> slice (literal "é" <|> literal "è") >> rewrite "e"

/-- The stem of a French word. -/
def stem : Rule :=
  aside prelude >> aside markRegions >>
  fromEnd (
    aside (
      both (standardSuffix <|> verbSuffixI <|> verbSuffix)
        (optional (openSlice >>
          ((literal "Y" >> closeSlice >> rewrite "i") <|>
            (literal "ç" >> closeSlice >> rewrite "c")))) <|>
      residualSuffix) >>
    aside undouble >> aside dropAccent) >>
  aside postlude

end BoolQuery.Stemming.French
