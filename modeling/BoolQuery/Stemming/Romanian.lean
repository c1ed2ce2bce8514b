import BoolQuery.Stemming.Choice

/-!
# Stemming of Romanian

The letters `u` and `i` between vowels are written in upper case meanwhile. Plurals go first, then
combined suffixes are reduced one after another, then the remaining suffix, a verb ending or a
final vowel goes. The verb region `pV` depends on whether the first two letters are vowels; `p1`
and `p2` start behind the first and the second consonant that follows a vowel.
-/

namespace BoolQuery.Stemming.Romanian

open Rule

/-- The vowels. -/
def vowels : Text := "aeiouâîă"

/-- Read on past a vowel and then past a consonant. -/
def pastSyllable : Rule := seekPast (letter vowels) >> seekPast (otherThan vowels)

/-- Mark `u` and `i` between vowels. -/
def prelude : Rule :=
  many (seekTo (
    letter vowels >> openSlice >>
    ((literal "u" >> closeSlice >> letter vowels >> rewrite "U") <|>
      (literal "i" >> closeSlice >> letter vowels >> rewrite "I"))))

/-- Find the regions. -/
def markRegions : Rule :=
  setMarkAtEnd .pV >> setMarkAtEnd .p1 >> setMarkAtEnd .p2 >>
  aside (
    ((letter vowels >>
        ((otherThan vowels >> seekPast (letter vowels)) <|>
          (letter vowels >> seekPast (otherThan vowels)))) <|>
      (otherThan vowels >>
        ((otherThan vowels >> seekPast (letter vowels)) <|> (letter vowels >> next)))) >>
    setMark .pV) >>
  aside (
    pastSyllable >> setMark .p1 >>
    pastSyllable >> setMark .p2)

/-- Write the marked letters in lower case again. -/
def postlude : Rule :=
  many (sliceAmong skip (
    on ["I"] (rewrite "i") ++
    on ["U"] (rewrite "u") ++
    on [""] next))

/-- Plurals and the definite article. -/
def plural : Rule :=
  sliceAmong (inRegion .p1) (
    on ["ul", "ului"] erase ++
    on ["aua"] (rewrite "a") ++
    on ["ea", "ele", "elor"] (rewrite "e") ++
    on ["ii", "iua", "iei", "iile", "iilor", "ilor"] (rewrite "i") ++
    on ["ile"] (absent (literal "ab") >> rewrite "i") ++
    on ["atei"] (rewrite "at") ++
    on ["aţie", "aţia"] (rewrite "aţi"))

/-- A combination of two suffixes becomes the first of them. -/
def combinedSuffix : Rule :=
  peek (
    sliceAmong (inRegion .p1) (
      on ["abilitate", "abilitati", "abilităi", "abilităţi"] (rewrite "abil") ++
      on ["ibilitate"] (rewrite "ibil") ++
      on ["ivitate", "ivitati", "ivităi", "ivităţi"] (rewrite "iv") ++
      on ["icitate", "icitati", "icităi", "icităţi", "icator", "icatori", "iciv", "iciva", "icive",
        "icivi", "icivă", "ical", "icala", "icale", "icali", "icală"] (rewrite "ic") ++
      on ["ativ", "ativa", "ative", "ativi", "ativă", "aţiune", "atoare", "ator", "atori", "ătoare",
        "ător", "ători"] (rewrite "at") ++
      on ["itiv", "itiva", "itive", "itivi", "itivă", "iţiune", "itoare", "itor", "itori"] (
        rewrite "it")) >>
    setFlag)

/-- Suffixes of nouns and adjectives, and past participles. -/
def standardSuffix : Rule :=
  clearFlag >> many combinedSuffix >>
  sliceAmong (inRegion .p2) (
    on ["at", "ata", "ată", "ati", "ate", "ut", "uta", "ută", "uti", "ute", "it", "ita", "ită",
      "iti", "ite", "ic", "ica", "ice", "ici", "ică", "abil", "abila", "abile", "abili", "abilă",
      "ibil", "ibila", "ibile", "ibili", "ibilă", "oasa", "oasă", "oase", "os", "osi", "oşi",
      "ant", "anta", "ante", "anti", "antă", "ator", "atori", "itate", "itati", "ităi", "ităţi",
      "iv", "iva", "ive", "ivi", "ivă"] erase ++
    on ["iune", "iuni"] (literal "ţ" >> closeSlice >> rewrite "t") ++
    on ["ism", "isme", "ist", "ista", "iste", "isti", "istă", "işti"] (rewrite "ist")) >>
  setFlag

/-- Suffixes of verbs. -/
def verbSuffix : Rule :=
  within .pV (sliceAmong skip (
    on ["are", "ere", "ire", "âre", "ind", "ând", "indu", "ându", "eze", "ească", "ez", "ezi",
      "ează", "esc", "eşti", "eşte", "ăsc", "ăşti", "ăşte", "am", "ai", "au", "eam", "eai", "ea",
      "eaţi", "eau", "iam", "iai", "ia", "iaţi", "iau", "ui", "aşi", "arăm", "arăţi", "ară",
      "uşi", "urăm", "urăţi", "ură", "işi", "irăm", "irăţi", "iră", "âi", "âşi", "ârăm", "ârăţi",
      "âră", "asem", "aseşi", "ase", "aserăm", "aserăţi", "aseră", "isem", "iseşi", "ise",
      "iserăm", "iserăţi", "iseră", "âsem", "âseşi", "âse", "âserăm", "âserăţi", "âseră", "usem",
      "useşi", "use", "userăm", "userăţi", "useră"] (
      (otherThan vowels <|> literal "u") >> erase) ++
    on ["ăm", "aţi", "em", "eţi", "im", "iţi", "âm", "âţi", "seşi", "serăm", "serăţi", "seră",
      "sei", "se", "sesem", "seseşi", "sese", "seserăm", "seserăţi", "seseră"] erase))

/-- A final vowel. -/
def vowelSuffix : Rule :=
  sliceAmong (inRegion .pV) (on ["a", "e", "i", "ie", "ă"] erase)

/-- The stem of a Romanian word. -/
def stem : Rule :=
  aside prelude >> aside markRegions >>
  fromEnd (
    aside plural >> aside standardSuffix >> aside (flagged <|> verbSuffix) >>
    aside vowelSuffix) >>
  aside postlude

end BoolQuery.Stemming.Romanian
