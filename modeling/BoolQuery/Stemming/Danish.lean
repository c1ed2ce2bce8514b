import BoolQuery.Stemming.Choice

/-!
# Stemming of Danish

Inflectional endings are removed in the region `p1`, which starts behind the first consonant that
follows a vowel and leaves at least three letters before it. Then consonant pairs and derivational
endings go, and a doubled consonant at the end becomes a single one.
-/

namespace BoolQuery.Stemming.Danish

open Rule

/-- The vowels. -/
def vowels : Text := "aeiouyæåø"

/-- The letters after which a final `s` is an ending. -/
def beforeS : Text := "abcdfghjklmnoprtvyzå"

/-- Find the region. -/
def markRegions : Rule :=
  setMarkAtEnd .p1 >>
  peek (hop 3 >> setMark .least) >>
  seekTo (letter vowels) >> seekPast (otherThan vowels) >> setMark .p1 >>
  optional (raiseMark .p1 .least)

/-- Inflectional endings. -/
def mainSuffix : Rule :=
  sliceAmongWithin .p1 (
    on ["hed", "ethed", "ered", "e", "erede", "ende", "erende", "ene", "erne", "ere", "en",
      "heden", "eren", "er", "heder", "erer", "heds", "es", "endes", "erendes", "enes", "ernes",
      "eres", "ens", "hedens", "erens", "ers", "ets", "erets", "et", "eret"] erase ++
    on ["s"] (letter beforeS >> erase))

/-- The second letter of certain pairs. -/
def consonantPair : Rule :=
  peek (sliceAmongWithin .p1 (on ["gd", "dt", "gt", "kt"] skip)) >>
  next >> closeSlice >> erase

/-- Derivational endings. -/
def otherSuffix : Rule :=
  aside (slice (literal "st") >> literal "ig" >> erase) >>
  sliceAmongWithin .p1 (
    on ["ig", "lig", "elig", "els"] (erase >> aside consonantPair) ++
    on ["løst"] (rewrite "løs"))

/-- A doubled consonant at the end. -/
def undouble : Rule :=
  within .p1 (slice (otherThan vowels) >> saveSlice) >> savedText >> erase

/-- The stem of a Danish word. -/
def stem : Rule :=
  aside markRegions >>
  fromEnd (aside mainSuffix >> aside consonantPair >> aside otherSuffix >> aside undouble)

end BoolQuery.Stemming.Danish
