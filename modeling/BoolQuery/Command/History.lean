import BoolQuery.Log.Filter
import BoolQuery.Settings.Basic

/-!
# What commands record

The log events of commands: the settings that were loaded and what is wrong with them, the start of
a conversion, every operator that another one flushes, and the outcome for every query.
-/

namespace BoolQuery.Log.Event

/-- The target of events about settings. -/
def contextTarget : Text := "rpn::cli::context"

/-- The target of events about the command that converts queries. -/
def commandTarget : Text := "rpn::cli::commands::convert"

/-- The target of events about single queries. -/
def queryTarget : Text := "rpn_query::convert"

/-- Settings were loaded. -/
def loaded (settings : Settings) : Event :=
  let paths := settings.sources.map fun path => Text.Quoted.quoteStrictly path.text
  ⟨.debug, contextTarget, "loaded configuration",
    [("sources", ['['] ++ Text.joinWith ", ".toList paths ++ [']'])]⟩

/-- Something is wrong with the settings. -/
def warning (warning : Warning) : Event :=
  ⟨.warn, contextTarget, warning.message, []⟩

/-- Options as a text. -/
def optionsText (options : ConvertOptions) : Text :=
  let truth := fun value => if value then "true".toList else "false".toList
  "ConvertOptions \x7b strict: ".toList ++ truth options.strict ++
    ", case_insensitive: ".toList ++ truth options.anyCase ++ " \x7d".toList

/-- A conversion of so many queries starts. -/
def converting (count : Nat) (options : ConvertOptions) : Event :=
  ⟨.debug, commandTarget, "converting ".toList ++ Text.ofNat count ++ " queries".toList,
    [("options", optionsText options)]⟩

/-- An operator left the stack. -/
def flushing (flush : Flush) : Event :=
  ⟨.trace, queryTarget, "flushing operator",
    [("top", flush.top.symbol), ("incoming", flush.incoming.symbol)]⟩

/-- Tokens were converted. -/
def converted (tokens output : Nat) : Event :=
  ⟨.debug, queryTarget, "converted query to postfix",
    [("tokens", Text.ofNat tokens), ("output", Text.ofNat output)]⟩

/-- A malformed query was converted all the same. -/
def malformed (query : Text) (defects : Nat) : Event :=
  ⟨.debug, queryTarget, "malformed query converted leniently",
    [("query", Text.Quoted.quote query), ("anomalies", Text.ofNat defects)]⟩

/-- What is recorded while settings are loaded. -/
def ofSettings (settings : Settings) : List Event :=
  loaded settings :: settings.warnings.map warning

/-- What is recorded while a query is converted. -/
def ofQuery (converter : Converter) (query : Text) : List Event :=
  let tokens := converter.tokens query
  let conversion := Conversion.ofTokens tokens
  let complaint :=
    if converter.options.strict || conversion.defects.isEmpty then []
    else [malformed query conversion.defects.length]
  conversion.flushes.map flushing ++ [converted tokens.length conversion.slots.length] ++ complaint

/-- What is recorded while queries are converted. -/
def ofQueries (converter : Converter) (queries : List Text) : List Event :=
  converting queries.length converter.options :: queries.flatMap (ofQuery converter)

end BoolQuery.Log.Event
