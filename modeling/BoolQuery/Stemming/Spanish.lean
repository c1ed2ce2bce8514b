import BoolQuery.Stemming.Choice

/-!
# Stemming of Spanish

Attached pronouns go first, then a standard suffix or a verb ending, then a final vowel; acute
accents are dropped at the end. The verb region `pV` depends on whether the first two letters are
vowels; `p1` and `p2` start behind the first and the second consonant that follows a vowel.
-/

namespace BoolQuery.Stemming.Spanish

open Rule

/-- The vowels. -/
def vowels : Text := "aeiouáéíóúü"

/-- Read on past a vowel and then past a consonant. -/
def pastSyllable : Rule := seekPast (letter vowels) >> seekPast (otherThan vowels)

/-- Find the regions. -/
def markRegions : Rule :=
  setMarkAtEnd .pV >> setMarkAtEnd .p1 >> setMarkAtEnd .p2 >>
  aside (
    ((letter vowels >>
        ((otherThan vowels >> seekPast (letter vowels)) <|>
          (letter vowels >> seekPast (otherThan vowels)))) <|>
      (otherThan vowels >>
        ((otherThan vowels >> seekPast (letter vowels)) <|> (letter vowels >> next)))) >>
    setMark .pV) >>
  aside (
    pastSyllable >> setMark .p1 >>
    pastSyllable >> setMark .p2)

/-- Drop acute accents. -/
def postlude : Rule :=
  many (sliceAmong skip (
    on ["á"] (rewrite "a") ++
    on ["é"] (rewrite "e") ++
    on ["í"] (rewrite "i") ++
    on ["ó"] (rewrite "o") ++
    on ["ú"] (rewrite "u") ++
    on [""] next))

/-- Take the slice away if it lies in the second region. -/
def eraseInSecond : Rule := inRegion .p2 >> erase

/-- Pronouns attached to a gerund or an infinitive. -/
def attachedPronoun : Rule :=
  sliceAmong skip (
    on ["me", "se", "sela", "selo", "selas", "selos", "la", "le", "lo", "las", "les", "los",
      "nos"] skip) >>
  among (inRegion .pV) (
    on ["iéndo"] (closeSlice >> rewrite "iendo") ++
    on ["ándo"] (closeSlice >> rewrite "ando") ++
    on ["ár"] (closeSlice >> rewrite "ar") ++
    on ["ér"] (closeSlice >> rewrite "er") ++
    on ["ír"] (closeSlice >> rewrite "ir") ++
    on ["ando", "iendo", "ar", "er", "ir"] erase ++
    on ["yendo"] (literal "u" >> erase))

/-- Suffixes of nouns, adjectives and adverbs. -/
def standardSuffix : Rule :=
  sliceAmong skip (
    on ["anza", "anzas", "ico", "ica", "icos", "icas", "ismo", "ismos", "able", "ables", "ible",
      "ibles", "ista", "istas", "oso", "osa", "osos", "osas", "amiento", "amientos", "imiento",
      "imientos"] eraseInSecond ++
    on ["adora", "ador", "ación", "adoras", "adores", "aciones", "ante", "antes", "ancia",
      "ancias"] (eraseInSecond >> optional (slice (literal "ic") >> eraseInSecond)) ++
    on ["logía", "logías"] (inRegion .p2 >> rewrite "log") ++
    on ["ución", "uciones"] (inRegion .p2 >> rewrite "u") ++
    on ["encia", "encias"] (inRegion .p2 >> rewrite "ente") ++
    on ["amente"] (
      inRegion .p1 >> erase >>
      optional (sliceAmong eraseInSecond (
        on ["iv"] (slice (literal "at") >> eraseInSecond) ++
        on ["os", "ic", "ad"] skip))) ++
    on ["mente"] (
      eraseInSecond >>
      optional (sliceAmong skip (on ["ante", "able", "ible"] eraseInSecond))) ++
    on ["idad", "idades"] (
      eraseInSecond >>
      optional (sliceAmong skip (on ["abil", "ic", "iv"] eraseInSecond))) ++
    on ["iva", "ivo", "ivas", "ivos"] (
      eraseInSecond >> optional (slice (literal "at") >> eraseInSecond)))

/-- Suffixes of verbs that start with `y` and follow `u`. -/
def verbSuffixY : Rule :=
  sliceAmongWithin .pV (
    on ["ya", "ye", "yan", "yen", "yeron", "yendo", "yo", "yó", "yas", "yes", "yais",
      "yamos"] (literal "u" >> erase))

/-- Suffixes of other verbs. -/
def verbSuffix : Rule :=
  sliceAmongWithin .pV (
    on ["en", "es", "éis", "emos"] (
      optional (literal "u" >> peek (literal "g")) >> closeSlice >> erase) ++
    on ["arían", "arías", "arán", "arás", "aríais", "aría", "aréis", "aríamos", "aremos", "ará",
      "aré", "erían", "erías", "erán", "erás", "eríais", "ería", "eréis", "eríamos", "eremos",
      "erá", "eré", "irían", "irías", "irán", "irás", "iríais", "iría", "iréis", "iríamos",
      "iremos", "irá", "iré", "aba", "ada", "ida", "ía", "ara", "iera", "ad", "ed", "id", "ase",
      "iese", "aste", "iste", "an", "aban", "ían", "aran", "ieran", "asen", "iesen", "aron",
      "ieron", "ado", "ido", "ando", "iendo", "ió", "ar", "er", "ir", "as", "abas", "adas",
      "idas", "ías", "aras", "ieras", "ases", "ieses", "ís", "áis", "abais", "íais", "arais",
      "ierais", "aseis", "ieseis", "asteis", "isteis", "ados", "idos", "amos", "ábamos", "íamos",
      "imos", "áramos", "iéramos", "iésemos", "ásemos"] erase)

/-- What is left of a suffix. -/
def residualSuffix : Rule :=
  sliceAmong skip (
    on ["os", "a", "o", "á", "í", "ó"] (inRegion .pV >> erase) ++
    on ["e", "é"] (
      inRegion .pV >> erase >>
      optional (slice (literal "u") >> peek (literal "g") >> inRegion .pV >> erase)))

/-- The stem of a Spanish word. -/
def stem : Rule :=
  aside markRegions >>
  fromEnd (
    aside attachedPronoun >> aside (standardSuffix <|> verbSuffixY <|> verbSuffix) >>
    aside residualSuffix) >>
  aside postlude

end BoolQuery.Stemming.Spanish
