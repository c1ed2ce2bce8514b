import BoolQuery.Stemming.Choice

/-!
# Stemming of Swedish

Inflectional endings are removed in the region `p1`, which starts behind the first consonant that
follows a vowel and leaves at least three letters before it. Then consonant pairs and derivational
endings go.
-/

namespace BoolQuery.Stemming.Swedish

open Rule

/-- The vowels. -/
def vowels : Text := "aeiouyäåö"

/-- The letters after which a final `s` is an ending. -/
def beforeS : Text := "bcdfghjklmnoprtvy"

/-- Find the region. -/
def markRegions : Rule :=
  setMarkAtEnd .p1 >>
  peek (hop 3 >> setMark .least) >>
  seekTo (letter vowels) >> seekPast (otherThan vowels) >> setMark .p1 >>
  optional (raiseMark .p1 .least)

/-- Inflectional endings. -/
def mainSuffix : Rule :=
  sliceAmongWithin .p1 (
    on ["a", "arna", "erna", "heterna", "orna", "ad", "e", "ade", "ande", "arne", "are", "aste",
      "en", "anden", "aren", "heten", "ern", "ar", "er", "heter", "or", "as", "arnas", "ernas",
      "ornas", "es", "ades", "andes", "ens", "arens", "hetens", "erns", "at", "andet", "het",
      "ast"] erase ++
    on ["s"] (letter beforeS >> erase))

/-- The second letter of certain pairs. -/
def consonantPair : Rule :=
  within .p1 (
    both (oneOf ["dd", "gd", "nn", "dt", "gt", "kt", "tt"]) (slice next >> erase))

/-- Derivational endings. -/
def otherSuffix : Rule :=
  within .p1 (
    sliceAmong skip (
      on ["lig", "ig", "els"] erase ++
      on ["löst"] (rewrite "lös") ++
      on ["fullt"] (rewrite "full")))

/-- The stem of a Swedish word. -/
def stem : Rule :=
  aside markRegions >>
  fromEnd (aside mainSuffix >> aside consonantPair >> aside otherSuffix)

end BoolQuery.Stemming.Swedish
