import BoolQuery.Stemming.Choice

/-!
# Stemming of Norwegian

Inflectional endings are removed in the region `p1`, which starts behind the first consonant that
follows a vowel and leaves at least three letters before it. Then consonant pairs and derivational
endings go.
-/

namespace BoolQuery.Stemming.Norwegian

open Rule

/-- The vowels. -/
def vowels : Text := "aeiouyæåø"

/-- The letters after which a final `s` is an ending. -/
def beforeS : Text := "bcdfghjlmnoprtvyz"

/-- Find the region. -/
def markRegions : Rule :=
  setMarkAtEnd .p1 >>
  peek (hop 3 >> setMark .least) >>
  seekTo (letter vowels) >> seekPast (otherThan vowels) >> setMark .p1 >>
  optional (raiseMark .p1 .least)

/-- Inflectional endings. -/
def mainSuffix : Rule :=
  sliceAmongWithin .p1 (
    on ["a", "e", "ede", "ande", "ende", "ane", "ene", "hetene", "en", "heten", "ar", "er",
      "heter", "as", "es", "edes", "endes", "enes", "hetenes", "ens", "hetens", "ers", "ets",
      "et", "het", "ast"] erase ++
    on ["s"] ((letter beforeS <|> (literal "k" >> otherThan vowels)) >> erase) ++
    on ["erte", "ert"] (rewrite "er"))

/-- The second letter of certain pairs. -/
def consonantPair : Rule :=
  peek (sliceAmongWithin .p1 (on ["dt", "vt"] skip)) >>
  next >> closeSlice >> erase

/-- Derivational endings. -/
def otherSuffix : Rule :=
  sliceAmongWithin .p1 (
    on ["leg", "eleg", "ig", "eig", "lig", "elig", "els", "lov", "elov", "slov", "hetslov"] erase)

/-- The stem of a Norwegian word. -/
def stem : Rule :=
  aside markRegions >>
  fromEnd (aside mainSuffix >> aside consonantPair >> aside otherSuffix)

end BoolQuery.Stemming.Norwegian
