import BoolQuery.Stemming.Choice

/-!
# Stemming of Portuguese

The nasal vowels `ã` and `õ` are written as a vowel and a tilde meanwhile. The verb region `pV`
depends on whether the first two letters are vowels; `p1` and `p2` start behind the first and the
second consonant that follows a vowel.
-/

namespace BoolQuery.Stemming.Portuguese

open Rule

/-- The vowels. -/
def vowels : Text := "aeiouáéíóúâêô"

/-- Read on past a vowel and then past a consonant. -/
def pastSyllable : Rule := seekPast (letter vowels) >> seekPast (otherThan vowels)

/-- Write nasal vowels with a tilde of their own. -/
def prelude : Rule :=
  many (sliceAmong skip (
    on ["ã"] (rewrite "a~") ++
    on ["õ"] (rewrite "o~") ++
    on [""] next))

/-- Find the regions. -/
def markRegions : Rule :=
  setMarkAtEnd .pV >> setMarkAtEnd .p1 >> setMarkAtEnd .p2 >>
  aside (
    ((letter vowels >>
        ((otherThan vowels >> seekPast (letter vowels)) <|>
          (letter vowels >> seekPast (otherThan vowels)))) <|>
      (otherThan vowels >>
        ((otherThan vowels >> seekPast (letter vowels)) <|> (letter vowels >> next)))) >>
    setMark .pV) >>
  aside (
    pastSyllable >> setMark .p1 >>
    pastSyllable >> setMark .p2)

/-- Write nasal vowels as one letter again. -/
def postlude : Rule :=
  many (sliceAmong skip (
    on ["a~"] (rewrite "ã") ++
    on ["o~"] (rewrite "õ") ++
    on [""] next))

/-- Take the slice away if it lies in the second region. -/
def eraseInSecond : Rule := inRegion .p2 >> erase

/-- Suffixes of nouns, adjectives and adverbs. -/
def standardSuffix : Rule :=
  sliceAmong skip (
    on ["eza", "ezas", "ico", "ica", "icos", "icas", "ismo", "ismos", "ável", "ível", "ista",
      "istas", "oso", "osa", "osos", "osas", "amento", "amentos", "imento", "imentos", "adora",
      "ador", "aça~o", "adoras", "adores", "aço~es", "ante", "antes", "ância"] eraseInSecond ++
    on ["logia", "logias"] (inRegion .p2 >> rewrite "log") ++
    on ["uça~o", "uço~es"] (inRegion .p2 >> rewrite "u") ++
    on ["ência", "ências"] (inRegion .p2 >> rewrite "ente") ++
    on ["amente"] (
      inRegion .p1 >> erase >>
      optional (sliceAmong eraseInSecond (
        on ["iv"] (slice (literal "at") >> eraseInSecond) ++
        on ["os", "ic", "ad"] skip))) ++
    on ["mente"] (
      eraseInSecond >>
      optional (sliceAmong skip (on ["ante", "avel", "ível"] eraseInSecond))) ++
    on ["idade", "idades"] (
      eraseInSecond >>
      optional (sliceAmong skip (on ["abil", "ic", "iv"] eraseInSecond))) ++
    on ["iva", "ivo", "ivas", "ivos"] (
      eraseInSecond >> optional (slice (literal "at") >> eraseInSecond)) ++
    on ["ira", "iras"] (inRegion .pV >> literal "e" >> rewrite "ir"))

/-- Suffixes of verbs. -/
def verbSuffix : Rule :=
  within .pV (sliceAmong skip (
    on ["ada", "ida", "ia", "aria", "eria", "iria", "ará", "ara", "erá", "era", "irá", "ava",
      "asse", "esse", "isse", "aste", "este", "iste", "ei", "arei", "erei", "irei", "am", "iam",
      "ariam", "eriam", "iriam", "aram", "eram", "iram", "avam", "em", "arem", "erem", "irem",
      "assem", "essem", "issem", "ado", "ido", "ando", "endo", "indo", "ara~o", "era~o", "ira~o",
      "ar", "er", "ir", "as", "adas", "idas", "ias", "arias", "erias", "irias", "arás", "aras",
      "erás", "eras", "irás", "avas", "es", "ardes", "erdes", "irdes", "ares", "eres", "ires",
      "asses", "esses", "isses", "astes", "estes", "istes", "is", "ais", "eis", "íeis", "aríeis",
      "eríeis", "iríeis", "áreis", "areis", "éreis", "ereis", "íreis", "ireis", "ásseis",
      "ésseis", "ísseis", "áveis", "ados", "idos", "ámos", "amos", "íamos", "aríamos", "eríamos",
      "iríamos", "áramos", "éramos", "íramos", "ávamos", "emos", "aremos", "eremos", "iremos",
      "ássemos", "êssemos", "íssemos", "imos", "armos", "ermos", "irmos", "eu", "iu", "ou", "ira",
      "iras"] erase))

/-- What is left of a suffix. -/
def residualSuffix : Rule :=
  sliceAmong skip (on ["os", "a", "i", "o", "á", "í", "ó"] (inRegion .pV >> erase))

/-- Final `e` with the letter that depends on it, and the cedilla. -/
def residualForm : Rule :=
  sliceAmong skip (
    on ["e", "é", "ê"] (
      inRegion .pV >> erase >> openSlice >>
      ((literal "u" >> closeSlice >> peek (literal "g")) <|>
        (literal "i" >> closeSlice >> peek (literal "c"))) >>
      inRegion .pV >> erase) ++
    on ["ç"] (rewrite "c"))

/-- The stem of a Portuguese word. -/
def stem : Rule :=
  aside prelude >> aside markRegions >>
  fromEnd (
    aside (
      both (standardSuffix <|> verbSuffix)
        (aside (slice (literal "i") >> peek (literal "c") >> inRegion .pV >> erase)) <|>
      residualSuffix) >>
    aside residualForm) >>
  aside postlude

end BoolQuery.Stemming.Portuguese
