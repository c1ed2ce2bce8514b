import BoolQuery.Stemming.Choice

/-!
# Stemming of Hungarian

Case endings, possessives and plurals of nouns are removed in turn within the region `p1`. In a
word that starts with a vowel it starts behind the first consonant or consonant group that is
written with several letters, otherwise behind the first vowel. Where an ending goes, a final long
vowel becomes short.
-/

namespace BoolQuery.Stemming.Hungarian

open Rule

/-- The vowels. -/
def vowels : Text := "aeiouáéíóöőúüű"

/-- Find the region. -/
def markRegions : Rule :=
  setMarkAtEnd .p1 >>
  ((letter vowels >> seekTo (otherThan vowels) >>
      (oneOf ["cs", "gy", "ly", "ny", "sz", "ty", "zs", "dzs"] <|> next) >> setMark .p1) <|>
    (otherThan vowels >> seekPast (letter vowels) >> setMark .p1))

/-- Make a slice of the longest choice, which has to lie in the region. -/
def ending (choices : List Choice) : Rule := sliceAmong (inRegion .p1) choices

/-- A long vowel at the end becomes short. -/
def shortenVowel : Rule :=
  ending (on ["á"] (rewrite "a") ++ on ["é"] (rewrite "e"))

/-- A doubled consonant. -/
def doubled : Rule :=
  peek (oneOf ["bb", "cc", "ccs", "dd", "ff", "gg", "ggy", "jj", "kk", "ll", "lly", "mm", "nn",
    "nny", "pp", "rr", "ss", "ssz", "tt", "tty", "vv", "zz", "zzs"])

/-- Take one letter of a doubled consonant away. -/
def undouble : Rule := next >> slice (hop 1) >> erase

/-- The instrumental case. -/
def instrumental : Rule :=
  ending (on ["al", "el"] doubled) >> erase >> undouble

/-- Most case endings. -/
def caseEnding : Rule :=
  ending (
    on ["ban", "ben", "ba", "be", "ra", "re", "nak", "nek", "val", "vel", "tól", "től", "ról",
      "ről", "ból", "ből", "hoz", "hez", "höz", "nál", "nél", "ig", "at", "et", "ot", "öt", "ért",
      "képp", "képpen", "kor", "ul", "ül", "vá", "vé", "onként", "enként", "anként", "ként", "en",
      "on", "an", "ön", "n", "t"] skip) >>
  erase >> shortenVowel

/-- Case endings behind a long vowel. -/
def caseBehindVowel : Rule :=
  ending (
    on ["én"] (rewrite "e") ++
    on ["án"] (rewrite "a") ++
    on ["ánként"] (rewrite "a"))

/-- The case endings `-stul` and `-stül`. -/
def caseWith : Rule :=
  ending (
    on ["astul", "estül"] erase ++
    on ["stul", "stül"] erase ++
    on ["ástul"] (rewrite "a") ++
    on ["éstül"] (rewrite "e"))

/-- The factive case. -/
def factive : Rule :=
  ending (on ["á", "é"] doubled) >> erase >> undouble

/-- Plural endings. -/
def plural : Rule :=
  ending (
    on ["ák"] (rewrite "a") ++
    on ["ék"] (rewrite "e") ++
    on ["ök", "ak", "ok", "ek", "k"] erase)

/-- Endings of things owned. -/
def owned : Rule :=
  ending (
    on ["oké", "öké", "aké", "eké"] erase ++
    on ["éké"] (rewrite "e") ++
    on ["áké"] (rewrite "a") ++
    on ["ké"] erase ++
    on ["ééi"] (rewrite "e") ++
    on ["áéi"] (rewrite "a") ++
    on ["éi"] erase ++
    on ["éé"] (rewrite "e") ++
    on ["é"] erase)

/-- Possessive endings for one thing. -/
def ownerOfOne : Rule :=
  ending (
    on ["ünk", "unk"] erase ++
    on ["ánk"] (rewrite "a") ++
    on ["énk"] (rewrite "e") ++
    on ["nk"] erase ++
    on ["ájuk"] (rewrite "a") ++
    on ["éjük"] (rewrite "e") ++
    on ["juk", "jük"] erase ++
    on ["uk", "ük"] erase ++
    on ["em", "om", "am"] erase ++
    on ["ám"] (rewrite "a") ++
    on ["ém"] (rewrite "e") ++
    on ["m"] erase ++
    on ["od", "ed", "ad", "öd"] erase ++
    on ["ád"] (rewrite "a") ++
    on ["éd"] (rewrite "e") ++
    on ["d"] erase ++
    on ["ja", "je"] erase ++
    on ["a", "e", "o"] erase ++
    on ["á"] (rewrite "a") ++
    on ["é"] (rewrite "e"))

/-- Possessive endings for several things. -/
def ownerOfMany : Rule :=
  ending (
    on ["jaim", "jeim"] erase ++
    on ["áim"] (rewrite "a") ++
    on ["éim"] (rewrite "e") ++
    on ["aim", "eim"] erase ++
    on ["im"] erase ++
    on ["jaid", "jeid"] erase ++
    on ["áid"] (rewrite "a") ++
    on ["éid"] (rewrite "e") ++
    on ["aid", "eid"] erase ++
    on ["id"] erase ++
    on ["jai", "jei"] erase ++
    on ["ái"] (rewrite "a") ++
    on ["éi"] (rewrite "e") ++
    on ["ai", "ei"] erase ++
    on ["i"] erase ++
    on ["jaink", "jeink"] erase ++
    on ["eink", "aink"] erase ++
    on ["áink"] (rewrite "a") ++
    on ["éink"] (rewrite "e") ++
    on ["ink", "jaitok", "jeitek"] erase ++
    on ["aitok", "eitek"] erase ++
    on ["áitok"] (rewrite "a") ++
    on ["éitek"] (rewrite "e") ++
    on ["itek"] erase ++
    on ["jeik", "jaik"] erase ++
    on ["aik", "eik"] erase ++
    on ["áik"] (rewrite "a") ++
    on ["éik"] (rewrite "e") ++
    on ["ik"] erase)

/-- The stem of a Hungarian word. -/
def stem : Rule :=
  aside markRegions >>
  fromEnd (
    aside instrumental >> aside caseEnding >> aside caseBehindVowel >> aside caseWith >>
    aside factive >> aside owned >> aside ownerOfOne >> aside ownerOfMany >> aside plural)

end BoolQuery.Stemming.Hungarian
