import BoolQuery.Stemming.Choice

/-!
# Stemming of Italian

Acute accents become grave first, and `u` and `i` between vowels, and `u` behind `q`, are written in
upper case meanwhile. The verb region `pV` depends on whether the first two letters are vowels;
`p1` and `p2` start behind the first and the second consonant that follows a vowel.
-/

namespace BoolQuery.Stemming.Italian

open Rule

/-- The vowels. -/
def vowels : Text := "aeiouàèìòù"

/-- The vowels that go at the end of a word. -/
def finalVowels : Text := "aeioàèìò"

/-- Read on past a vowel and then past a consonant. -/
def pastSyllable : Rule := seekPast (letter vowels) >> seekPast (otherThan vowels)

/-- Turn accents and mark `u` and `i` that act as consonants. -/
def prelude : Rule :=
  peek (many (sliceAmong skip (
    on ["á"] (rewrite "à") ++
    on ["é"] (rewrite "è") ++
    on ["í"] (rewrite "ì") ++
    on ["ó"] (rewrite "ò") ++
    on ["ú"] (rewrite "ù") ++
    on ["qu"] (rewrite "qU") ++
    on [""] next))) >>
  many (seekTo (
    letter vowels >> openSlice >>
    ((literal "u" >> closeSlice >> letter vowels >> rewrite "U") <|>
      (literal "i" >> closeSlice >> letter vowels >> rewrite "I"))))

/-- Find the regions. -/
def markRegions : Rule :=
  setMarkAtEnd .pV >> setMarkAtEnd .p1 >> setMarkAtEnd .p2 >>
  aside (
    ((letter vowels >>
        ((otherThan vowels >> seekPast (letter vowels)) <|>
          (letter vowels >> seekPast (otherThan vowels)))) <|>
      (otherThan vowels >>
        ((otherThan vowels >> seekPast (letter vowels)) <|> (letter vowels >> next)))) >>
    setMark .pV) >>
  aside (
    pastSyllable >> setMark .p1 >>
    pastSyllable >> setMark .p2)

/-- Write the marked letters in lower case again. -/
def postlude : Rule :=
  many (sliceAmong skip (
    on ["I"] (rewrite "i") ++
    on ["U"] (rewrite "u") ++
    on [""] next))

/-- Take the slice away if it lies in the second region. -/
def eraseInSecond : Rule := inRegion .p2 >> erase

/-- Pronouns attached to a gerund or an infinitive. -/
def attachedPronoun : Rule :=
  sliceAmong skip (
    on ["ci", "gli", "la", "le", "li", "lo", "mi", "ne", "si", "ti", "vi", "sene", "gliela",
      "gliele", "glieli", "glielo", "gliene", "mela", "mele", "meli", "melo", "mene", "tela",
      "tele", "teli", "telo", "tene", "cela", "cele", "celi", "celo", "cene", "vela", "vele",
      "veli", "velo", "vene"] skip) >>
  among (inRegion .pV) (
    on ["ando", "endo"] erase ++
    on ["ar", "er", "ir"] (rewrite "e"))

/-- Suffixes of nouns, adjectives and adverbs. -/
def standardSuffix : Rule :=
  sliceAmong skip (
    on ["anza", "anze", "ico", "ici", "ica", "ice", "iche", "ichi", "ismo", "ismi", "abile",
      "abili", "ibile", "ibili", "ista", "iste", "isti", "istà", "istè", "istì", "oso", "osi",
      "osa", "ose", "mente", "atrice", "atrici", "ante", "anti"] eraseInSecond ++
    on ["azione", "azioni", "atore", "atori"] (
      eraseInSecond >> optional (slice (literal "ic") >> eraseInSecond)) ++
    on ["logia", "logie"] (inRegion .p2 >> rewrite "log") ++
    on ["uzione", "uzioni", "usione", "usioni"] (inRegion .p2 >> rewrite "u") ++
    on ["enza", "enze"] (inRegion .p2 >> rewrite "ente") ++
    on ["amento", "amenti", "imento", "imenti"] (inRegion .pV >> erase) ++
    on ["amente"] (
      inRegion .p1 >> erase >>
      optional (sliceAmong eraseInSecond (
        on ["iv"] (slice (literal "at") >> eraseInSecond) ++
        on ["os", "ic", "abil"] skip))) ++
    on ["ità"] (
      eraseInSecond >>
      optional (sliceAmong skip (on ["abil", "ic", "iv"] eraseInSecond))) ++
    on ["ivo", "ivi", "iva", "ive"] (
      eraseInSecond >>
      optional (
        slice (literal "at") >> eraseInSecond >> slice (literal "ic") >> eraseInSecond)))

/-- Suffixes of verbs. -/
def verbSuffix : Rule :=
  within .pV (sliceAmong skip (
    on ["ammo", "ando", "ano", "are", "arono", "asse", "assero", "assi", "assimo", "ata", "ate",
      "ati", "ato", "ava", "avamo", "avano", "avate", "avi", "avo", "emmo", "enda", "ende",
      "endi", "endo", "erà", "erai", "eranno", "ere", "erebbe", "erebbero", "erei", "eremmo",
      "eremo", "ereste", "eresti", "erete", "erò", "erono", "essero", "ete", "eva", "evamo",
      "evano", "evate", "evi", "evo", "Yamo", "iamo", "immo", "irà", "irai", "iranno", "ire",
      "irebbe", "irebbero", "irei", "iremmo", "iremo", "ireste", "iresti", "irete", "irò",
      "irono", "isca", "iscano", "isce", "isci", "isco", "iscono", "issero", "ita", "ite", "iti",
      "ito", "iva", "ivamo", "ivano", "ivate", "ivi", "ivo", "ono", "uta", "ute", "uti", "uto",
      "ar", "ir"] erase))

/-- Final vowels, and the `h` of a final `ch` or `gh`. -/
def vowelSuffix : Rule :=
  optional (
    slice (letter finalVowels) >> inRegion .pV >> erase >>
    slice (literal "i") >> inRegion .pV >> erase) >>
  optional (slice (literal "h") >> letter "cg" >> inRegion .pV >> erase)

/-- The stem of an Italian word. -/
def stem : Rule :=
  aside prelude >> aside markRegions >>
  fromEnd (
    aside attachedPronoun >> aside (standardSuffix <|> verbSuffix) >> aside vowelSuffix) >>
  aside postlude

end BoolQuery.Stemming.Italian
