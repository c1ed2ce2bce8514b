import BoolQuery.Stemming.Choice

/-!
# Stemming of Russian

All endings are removed in the region `pV`, which starts behind the first vowel: the ending of a
gerund, adjective, verb or noun, then `и`, then a derivational ending in the region `p2`, and what
is left of a superlative, a doubled `н` or a soft sign. The region `p2` starts behind the second
consonant that follows a vowel.
-/

namespace BoolQuery.Stemming.Russian

open Rule

/-- The vowels. -/
def vowels : Text := "аеиоуыэюя"

/-- Find the regions. -/
def markRegions : Rule :=
  setMarkAtEnd .pV >> setMarkAtEnd .p2 >>
  aside (
    seekPast (letter vowels) >> setMark .pV >> seekPast (otherThan vowels) >>
    seekPast (letter vowels) >> seekPast (otherThan vowels) >> setMark .p2)

/-- The letter `а` or `я`. -/
def aOrYa : Rule := literal "а" <|> literal "я"

/-- The endings of perfective gerunds. -/
def perfectiveGerund : Rule :=
  sliceAmong skip (
    on ["в", "вши", "вшись"] (aOrYa >> erase) ++
    on ["ив", "ивши", "ившись", "ыв", "ывши", "ывшись"] erase)

/-- The endings of adjectives. -/
def adjective : Rule :=
  sliceAmong skip (
    on ["ее", "ие", "ые", "ое", "ими", "ыми", "ей", "ий", "ый", "ой", "ем", "им", "ым", "ом",
      "его", "ого", "ему", "ому", "их", "ых", "ую", "юю", "ая", "яя", "ою", "ею"] erase)

/-- The endings of adjectives and participles. -/
def adjectival : Rule :=
  adjective >>
  optional (sliceAmong skip (
    on ["ем", "нн", "вш", "ющ", "щ"] (aOrYa >> erase) ++
    on ["ивш", "ывш", "ующ"] erase))

/-- The reflexive endings. -/
def reflexive : Rule :=
  sliceAmong skip (on ["ся", "сь"] erase)

/-- The endings of verbs. -/
def verb : Rule :=
  sliceAmong skip (
    on ["ла", "на", "ете", "йте", "ли", "й", "л", "ем", "н", "ло", "но", "ет", "ют", "ны", "ть",
      "ешь", "нно"] (aOrYa >> erase) ++
    on ["ила", "ыла", "ена", "ейте", "уйте", "ите", "или", "ыли", "ей", "уй", "ил", "ыл", "им",
      "ым", "ен", "ило", "ыло", "ено", "ят", "ует", "уют", "ит", "ыт", "ены", "ить", "ыть", "ишь",
      "ую", "ю"] erase)

/-- The endings of nouns. -/
def noun : Rule :=
  sliceAmong skip (
    on ["а", "ев", "ов", "ие", "ье", "е", "иями", "ями", "ами", "еи", "ии", "и", "ией", "ей",
      "ой", "ий", "й", "иям", "ям", "ием", "ем", "ам", "ом", "о", "у", "ах", "иях", "ях", "ы",
      "ь", "ию", "ью", "ю", "ия", "ья", "я"] erase)

/-- The derivational endings. -/
def derivational : Rule :=
  sliceAmong (inRegion .p2) (on ["ост", "ость"] erase)

/-- What is left of a superlative, a doubled `н` or a soft sign. -/
def tidy : Rule :=
  sliceAmong skip (
    on ["ейш", "ейше"] (erase >> slice (literal "н") >> literal "н" >> erase) ++
    on ["н"] (literal "н" >> erase) ++
    on ["ь"] erase)

/-- The stem of a Russian word. -/
def stem : Rule :=
  aside markRegions >>
  fromEnd (within .pV (
    aside (
      perfectiveGerund <|> (optional reflexive >> (adjectival <|> verb <|> noun))) >>
    optional (slice (literal "и") >> erase) >>
    aside derivational >> aside tidy))

end BoolQuery.Stemming.Russian
