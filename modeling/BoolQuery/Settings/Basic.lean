import BoolQuery.Converter
import BoolQuery.Path
import BoolQuery.Settings.Layer
import BoolQuery.Stemmer

/-!
# Settings

Settings are put together from the layers of several files. The file that comes first takes
precedence: it overrides, setting by setting, what the files behind it and the defaults say.
-/

namespace BoolQuery

/-- How queries are converted. -/
structure QuerySettings where
  /-- The name of the stemmer. -/
  stemmer : Text
  /-- Report malformed queries instead of converting them as far as possible. -/
  strict : Bool
  /-- Accept operator keywords in either case. -/
  anyCase : Bool
deriving DecidableEq, Repr

namespace QuerySettings

/-- The settings that hold where no file says otherwise. -/
def default : QuerySettings := ⟨Stemmer.defaultName, false, false⟩

/-- The settings with those of a layer in place of the present ones. -/
def override (settings : QuerySettings) (layer : QueryLayer) : QuerySettings where
  stemmer := layer.stemmer.getD settings.stemmer
  strict := layer.strict.getD settings.strict
  anyCase := layer.anyCase.getD settings.anyCase

/-- Settings as the text of a settings file. -/
def render (settings : QuerySettings) : Text :=
  let truth := fun value => if value then "true".toList else "false".toList
  Text.line "[query]" ++
    Text.line (QueryLayer.stemmerKey ++ " = ".toList ++ Toml.Quoted.write settings.stemmer) ++
    Text.line (QueryLayer.strictKey ++ " = ".toList ++ truth settings.strict) ++
    Text.line (QueryLayer.anyCaseKey ++ " = ".toList ++ truth settings.anyCase)

end QuerySettings

/-- The layer of a settings file together with the path of the file. -/
structure SourceLayer where
  path : Path
  layer : Layer
deriving DecidableEq, Repr

/-- What is wrong with settings without making them unusable. -/
inductive Warning where
  /-- No stemmer has the configured name. -/
  | unknownStemmer (name : Text)
deriving DecidableEq, Repr

/-- The message of a warning. -/
def Warning.message : Warning → Text
  | .unknownStemmer name => UnsupportedLanguage.message ⟨name⟩

/-- Settings and where they come from. -/
structure Settings where
  query : QuerySettings
  /-- The directory of the file that takes precedence. -/
  directory : Option Path
  /-- The files that were read, in order of precedence. -/
  sources : List Path
deriving DecidableEq, Repr

namespace Settings

/-- The settings without any file. -/
def default : Settings := ⟨.default, none, []⟩

/-- Merge files in order of precedence. -/
def merge (files : List SourceLayer) : Settings where
  query := files.foldr
    (fun file settings => match file.layer.query with
      | none => settings
      | some layer => settings.override layer) .default
  directory := files.head?.bind fun file => file.path.parent?
  sources := files.map SourceLayer.path

/-- The warnings about settings. -/
def warnings (settings : Settings) : List Warning :=
  match Stemmer.ofName settings.query.stemmer with
  | .ok _ => []
  | .error _ => [.unknownStemmer settings.query.stemmer]

/-- The options that settings give to a converter. -/
def options (settings : Settings) : ConvertOptions :=
  ⟨settings.query.strict, settings.query.anyCase⟩

/-- The converter that settings describe. -/
def converter [SuppliedStems] (settings : Settings) : Except UnsupportedLanguage Converter :=
  (Stemmer.ofName settings.query.stemmer).map fun stemmer =>
    ⟨stemmer.normalize, settings.options⟩

end Settings
end BoolQuery
