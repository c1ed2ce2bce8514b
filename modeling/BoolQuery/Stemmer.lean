import BoolQuery.Stemming.Danish
import BoolQuery.Stemming.Dutch
import BoolQuery.Stemming.English
import BoolQuery.Stemming.Finnish
import BoolQuery.Stemming.French
import BoolQuery.Stemming.German
import BoolQuery.Stemming.Hungarian
import BoolQuery.Stemming.Italian
import BoolQuery.Stemming.Norwegian
import BoolQuery.Stemming.Portuguese
import BoolQuery.Stemming.Romanian
import BoolQuery.Stemming.Russian
import BoolQuery.Stemming.Spanish
import BoolQuery.Stemming.Swedish
import BoolQuery.Text.LowerCase

/-!
# Stemmers

A stemmer normalizes terms: it only lowers their case, or it lowers every character on its own and
then reduces the word to its stem in one of eighteen languages. Stemmers are chosen by name, and
the case of a name does not matter: `none` is compared without regard to the case of `a` to `z`,
the languages after lower-casing.

The rules of fourteen languages are part of the library. The stems in Arabic, Greek, Tamil and
Turkish are supplied from outside (`SuppliedStems`), and everything that normalizes terms depends on
them.
-/

namespace BoolQuery

/-- A language that a stemmer can be chosen for. -/
inductive Language where
  | arabic | danish | dutch | english | finnish | french | german | greek | hungarian | italian
  | norwegian | portuguese | romanian | russian | spanish | swedish | tamil | turkish
deriving DecidableEq, Repr

namespace Language

/-- Every language, in the order of their names. -/
def all : List Language :=
  [.arabic, .danish, .dutch, .english, .finnish, .french, .german, .greek, .hungarian, .italian,
   .norwegian, .portuguese, .romanian, .russian, .spanish, .swedish, .tamil, .turkish]

/-- The name of a language, in lower case. -/
def name : Language → Text
  | .arabic => "arabic"
  | .danish => "danish"
  | .dutch => "dutch"
  | .english => "english"
  | .finnish => "finnish"
  | .french => "french"
  | .german => "german"
  | .greek => "greek"
  | .hungarian => "hungarian"
  | .italian => "italian"
  | .norwegian => "norwegian"
  | .portuguese => "portuguese"
  | .romanian => "romanian"
  | .russian => "russian"
  | .spanish => "spanish"
  | .swedish => "swedish"
  | .tamil => "tamil"
  | .turkish => "turkish"

end Language

/-- The stems of words in the languages whose rules are not part of the library. -/
class SuppliedStems where
  arabic : Text → Text
  greek : Text → Text
  tamil : Text → Text
  turkish : Text → Text

/-- Words as their own stems, for runs that stem no word of these languages. -/
abbrev SuppliedStems.unchanged : SuppliedStems :=
  ⟨id, id, id, id⟩

namespace Language

/-- The stem of a word in lower case. -/
def stem [SuppliedStems] : Language → Text → Text
  | .arabic => SuppliedStems.arabic
  | .danish => Stemming.Danish.stem.apply
  | .dutch => Stemming.Dutch.stem.apply
  | .english => Stemming.English.stem.apply
  | .finnish => Stemming.Finnish.stem.apply
  | .french => Stemming.French.stem.apply
  | .german => Stemming.German.stem.apply
  | .greek => SuppliedStems.greek
  | .hungarian => Stemming.Hungarian.stem.apply
  | .italian => Stemming.Italian.stem.apply
  | .norwegian => Stemming.Norwegian.stem.apply
  | .portuguese => Stemming.Portuguese.stem.apply
  | .romanian => Stemming.Romanian.stem.apply
  | .russian => Stemming.Russian.stem.apply
  | .spanish => Stemming.Spanish.stem.apply
  | .swedish => Stemming.Swedish.stem.apply
  | .tamil => SuppliedStems.tamil
  | .turkish => SuppliedStems.turkish

end Language

/-- A way of normalizing terms. -/
inductive Stemmer where
  /-- Lower the case of terms and nothing else. -/
  | none
  /-- Lower the case of terms and reduce them to their stems. -/
  | language (language : Language)
deriving DecidableEq, Repr

/-- The refusal of a stemmer name. -/
structure UnsupportedLanguage where
  /-- The name that was asked for, in lower case. -/
  name : Text
deriving DecidableEq, Repr

namespace UnsupportedLanguage

/-- The message of a refusal. -/
def message (refusal : UnsupportedLanguage) : Text :=
  "unsupported stemmer language: ".toList ++ refusal.name

end UnsupportedLanguage

namespace Language

/-- The language with a given name, whose case does not matter. -/
def ofName (name : Text) : Except UnsupportedLanguage Language :=
  let folded := Text.lower name
  match all.find? fun language => language.name == folded with
  | some language => .ok language
  | none => .error ⟨folded⟩

end Language

namespace Stemmer

/-- The name of the stemmer that only lowers the case of terms. -/
def noneName : Text := "none"

/-- The name of the stemmer that is used when none is chosen. -/
def defaultName : Text := "english"

/-- The stemmer with a given name, whose case does not matter. -/
def ofName (name : Text) : Except UnsupportedLanguage Stemmer :=
  if Text.equalIgnoringCase name noneName then .ok .none
  else (Language.ofName name).map Stemmer.language

/-- The normal form of a term. -/
def normalize [SuppliedStems] : Stemmer → Text → Text
  | .none, term => Text.lower term
  | .language _, [] => []
  | .language chosen, term => chosen.stem (Text.foldEach term)

end Stemmer
end BoolQuery
