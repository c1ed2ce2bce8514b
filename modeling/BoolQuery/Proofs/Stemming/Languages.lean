import BoolQuery.Proofs.Stemming.Alphabet
import BoolQuery.Proofs.Text.LowerCase
import BoolQuery.Stemmer
import BoolQuery.Text.Blank

/-!
# Normal forms gain no blank characters

The stemmers of fourteen languages have alphabets, which are computed from their rules and hold no
blank character. So a blank character of a stem was in the word before. Of the supplied stems in the
other four languages the same is assumed (`SuppliedStems.AddNoBlank`). Under this assumption a space
or a line feed of a normal form was in the term before, whatever the language, since lower-casing
adds neither (`mem_of_mem_normalize`).
-/

namespace BoolQuery

namespace Stemming

-- The stemmers have more parts than other terms that instances are found for.
set_option synthInstance.maxSize 1000

namespace Danish

instance : Alphabet stem := by
  unfold stem undouble otherSuffix consonantPair mainSuffix markRegions
  infer_instance

end Danish

namespace Dutch

instance : Alphabet skipThreeBytes := .ofStill fun scan => by
  simp only [skipThreeBytes]
  split <;> rfl

instance : Alphabet stem := by
  unfold stem standardSuffix finalEn finalE undouble postlude markRegions pastSyllable prelude
  infer_instance

end Dutch

namespace English

instance : Alphabet stem := by
  unfold stem postlude exception settled tidy residue derivation doubleSuffix finalY participle
    shortSyllable plural markRegions pastSyllable prelude
  infer_instance

end English

namespace Finnish

instance : Alphabet stem := by
  unfold stem tidy pluralT pluralI otherEndings caseEnding vowelBeforeI longVowel possessive
    particle markRegions
  infer_instance

end Finnish

namespace French

instance : Alphabet stem := by
  unfold stem dropAccent undouble residualSuffix verbSuffix verbSuffixI standardSuffix
    eraseInSecond postlude markRegions pastSyllable prelude
  infer_instance

end French

namespace German

instance : Alphabet stem := by
  unfold stem standardSuffix postlude markRegions pastSyllable prelude
  infer_instance

end German

namespace Hungarian

instance : Alphabet stem := by
  unfold stem ownerOfMany ownerOfOne owned plural factive caseWith caseBehindVowel caseEnding
    shortenVowel instrumental undouble doubled ending markRegions
  infer_instance

end Hungarian

namespace Italian

instance : Alphabet stem := by
  unfold stem vowelSuffix verbSuffix standardSuffix eraseInSecond attachedPronoun postlude
    markRegions pastSyllable prelude
  infer_instance

end Italian

namespace Norwegian

instance : Alphabet stem := by
  unfold stem otherSuffix consonantPair mainSuffix markRegions
  infer_instance

end Norwegian

namespace Portuguese

instance : Alphabet stem := by
  unfold stem residualForm residualSuffix verbSuffix standardSuffix eraseInSecond postlude
    markRegions pastSyllable prelude
  infer_instance

end Portuguese

namespace Romanian

instance : Alphabet stem := by
  unfold stem vowelSuffix verbSuffix standardSuffix combinedSuffix plural postlude markRegions
    pastSyllable prelude
  infer_instance

end Romanian

namespace Russian

instance : Alphabet stem := by
  unfold stem tidy derivational noun verb reflexive adjectival adjective perfectiveGerund aOrYa
    markRegions
  infer_instance

end Russian

namespace Spanish

instance : Alphabet stem := by
  unfold stem residualSuffix verbSuffix verbSuffixY standardSuffix eraseInSecond attachedPronoun
    postlude markRegions pastSyllable
  infer_instance

end Spanish

namespace Swedish

instance : Alphabet stem := by
  unfold stem otherSuffix consonantPair mainSuffix markRegions
  infer_instance

end Swedish

/-- A way of rewriting words adds no blank characters: those that it writes were in the word. -/
def AddsNoBlank (rewrite : Text → Text) : Prop :=
  ∀ word, ∀ c ∈ rewrite word, Text.isBlank c = true → c ∈ word

/-- A rule adds no blank characters if its alphabet has none. -/
theorem Alphabet.addsNoBlank_apply {rule : Rule} [Alphabet rule]
    (plain : (Alphabet.letters rule).any Text.isBlank = false) : AddsNoBlank rule.apply := by
  intro word c member blank
  refine (mem_apply member).resolve_right fun letter => ?_
  exact List.any_eq_false.mp plain c letter blank

end Stemming

/-- Stemmers take endings off words and put other letters in their place. Of the supplied stems this
is all that is assumed: none of them has a blank character that its word does not have. -/
structure SuppliedStems.AddNoBlank [SuppliedStems] : Prop where
  arabic : Stemming.AddsNoBlank SuppliedStems.arabic
  greek : Stemming.AddsNoBlank SuppliedStems.greek
  tamil : Stemming.AddsNoBlank SuppliedStems.tamil
  turkish : Stemming.AddsNoBlank SuppliedStems.turkish

/-- Words that are their own stems gain nothing. -/
theorem SuppliedStems.addNoBlank_unchanged : @AddNoBlank .unchanged :=
  @AddNoBlank.mk .unchanged (fun _ _ member _ => member) (fun _ _ member _ => member)
    (fun _ _ member _ => member) (fun _ _ member _ => member)

/-- No stem has a blank character that its word does not have, if this is true of those supplied. -/
theorem Language.addsNoBlank_stem [SuppliedStems] (supplied : SuppliedStems.AddNoBlank)
    (language : Language) : Stemming.AddsNoBlank language.stem := by
  cases language with
  | arabic => exact supplied.arabic
  | greek => exact supplied.greek
  | tamil => exact supplied.tamil
  | turkish => exact supplied.turkish
  | _ => exact Stemming.Alphabet.addsNoBlank_apply (by decide +kernel)

/-- A blank character before `A` in the normal form of a term was in the term before. -/
theorem Stemmer.mem_of_mem_normalize [SuppliedStems] (supplied : SuppliedStems.AddNoBlank)
    {stemmer : Stemmer} {term : Text} {c : Char} (blank : Text.isBlank c = true)
    (positive : 0 < c.toNat) (early : c.toNat ≤ 0x40) (member : c ∈ stemmer.normalize term) :
    c ∈ term := by
  unfold normalize at member
  split at member
  · exact Text.mem_of_mem_lower positive early member
  · cases member
  · exact Text.mem_of_mem_foldEach positive early
      (Language.addsNoBlank_stem supplied _ _ c member blank)

end BoolQuery
