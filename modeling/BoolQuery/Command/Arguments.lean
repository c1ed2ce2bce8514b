import BoolQuery.Text.Basic

/-!
# Command lines

The words of a command line name a command, its options and its queries. Options and queries mix
freely; behind the word `--` every word is a query. Options without a value are flags, some of
which have a letter as well; letters can be written together behind one dash. The one option with a
value takes it behind an equals sign or as the next word.

Words are read from left to right and the first mistake counts. An option that still waits for its
value is settled by the next word that has a meaning, so a word without one is the mistake even if
the value is missing as well.
-/

namespace BoolQuery

/-- A request to convert queries. -/
structure ConvertRequest where
  queries : List Text
  /-- Report malformed queries. -/
  strict : Bool
  /-- Convert malformed queries as far as possible. -/
  lenient : Bool
  /-- Accept operator keywords in either case. -/
  anyCase : Bool
  /-- The stemmer to use in place of the configured one. -/
  stemmer : Option Text
  /-- Write the results as JSON. -/
  json : Bool
deriving DecidableEq, Repr

/-- What the program is asked to do. -/
inductive Command where
  /-- Convert queries. -/
  | convert (request : ConvertRequest)
  /-- List the tokens of a query. -/
  | tokens (query : Text) (anyCase : Bool)
  /-- Create a settings file. -/
  | init (global force : Bool)
  /-- Show the settings. -/
  | config
deriving DecidableEq, Repr

/-- The ways in which a command line asks for no command. -/
inductive UsageError where
  | nothingGiven
  | helpRequested
  | unknownCommand
  | unknownArgument
  /-- A flag with a value. -/
  | unexpectedValue
  /-- An option without its value. -/
  | missingValue
  /-- Two options that exclude each other, or one of them twice. -/
  | conflict
  | missingQuery
deriving DecidableEq, Repr

namespace UsageError

/-- The message of an error. -/
def message : UsageError → Text
  | .nothingGiven => "no command given; the commands are convert, tokens, init and config"
  | .helpRequested => "usage: rpn (convert | tokens | init | config) [options] [queries]"
  | .unknownCommand => "unknown command"
  | .unknownArgument => "unexpected argument"
  | .unexpectedValue => "a flag takes no value"
  | .missingValue => "an option needs a value"
  | .conflict => "conflicting or repeated options"
  | .missingQuery => "no query given"

end UsageError

/-- An option without a value. -/
inductive Flag where
  | help | strict | lenient | anyCase | json | global | force
deriving DecidableEq, Repr

namespace Flag

/-- The name of a flag behind two dashes. -/
def name : Flag → Text
  | .help => "help"
  | .strict => "strict"
  | .lenient => "lenient"
  | .anyCase => "ignore-case"
  | .json => "json"
  | .global => "global"
  | .force => "force"

/-- The letter of a flag behind one dash. -/
def letter? : Flag → Option Char
  | .help => some 'h'
  | .anyCase => some 'i'
  | _ => none

end Flag

/-- The name of the option that chooses a stemmer. -/
def stemmerOption : Text := "stemmer"

/-- What a command accepts. -/
structure Signature where
  flags : List Flag
  takesStemmer : Bool
  /-- The greatest number of queries, if there is one. -/
  maxQueries : Option Nat
deriving DecidableEq, Repr

namespace Signature

/-- Converting takes the switches of a converter, a stemmer, and any number of queries. -/
def convert : Signature := ⟨[.help, .strict, .lenient, .anyCase, .json], true, none⟩

/-- Listing tokens takes the switch for the case of keywords and one query. -/
def tokens : Signature := ⟨[.help, .anyCase], false, some 1⟩

/-- Creating a settings file takes switches for its place and for overwriting it. -/
def init : Signature := ⟨[.help, .global, .force], false, some 0⟩

/-- Showing settings takes nothing but a request for help. -/
def config : Signature := ⟨[.help], false, some 0⟩

/-- The flag with a given name. -/
def flagNamed? (signature : Signature) (name : Text) : Option Flag :=
  signature.flags.find? fun flag => flag.name == name

/-- The flag with a given letter. -/
def flagLettered? (signature : Signature) (letter : Char) : Option Flag :=
  signature.flags.find? fun flag => flag.letter? == some letter

end Signature

/-- The meaning of the words read so far. -/
structure Given where
  flags : List Flag
  stemmer : Option Text
  queries : List Text
  /-- An option that was read but not yet settled, with its value if that was read. -/
  waiting : Option (Option Text)
deriving DecidableEq, Repr

namespace Given

/-- What the absence of words means. -/
def nothing : Given := ⟨[], none, [], none⟩

/-- Settle the option that waits, if one does. -/
def settle (given : Given) : Except UsageError Given :=
  match given.waiting with
  | none => .ok given
  | some none => .error .missingValue
  | some (some value) =>
    if given.stemmer.isSome then .error .conflict
    else .ok { given with stemmer := some value, waiting := none }

/-- Add a flag. -/
def addFlag (given : Given) (flag : Flag) : Except UsageError Given := do
  let given ← given.settle
  if flag == .help then throw .helpRequested
  else if given.flags.contains flag then throw .conflict
  else return { given with flags := given.flags ++ [flag] }

/-- Add a query. -/
def addQuery (signature : Signature) (given : Given) (query : Text) : Except UsageError Given :=
  if signature.maxQueries.any (· ≤ given.queries.length) then throw .unknownArgument
  else do
    let given ← given.settle
    return { given with queries := given.queries ++ [query] }

/-- Add the stemmer option with the value behind its equals sign, or without one. -/
def addStemmer (given : Given) (value : Option Text) : Except UsageError Given := do
  let given ← given.settle
  let waiting := { given with waiting := some value }
  if value.isSome then waiting.settle else return waiting

/-- Add the option with a given name, and the value behind its equals sign if there is one. -/
def addNamed (signature : Signature) (given : Given) (name : Text) (value : Option Text) :
    Except UsageError Given :=
  if signature.takesStemmer && name == stemmerOption then given.addStemmer value
  else match signature.flagNamed? name, value with
    | none, _ => throw .unknownArgument
    | some _, some _ => throw .unexpectedValue
    | some flag, none => given.addFlag flag

/-- Add the flags with the given letters. -/
def addLetters (signature : Signature) (given : Given) : Text → Except UsageError Given
  | [] => .ok given
  | letter :: rest =>
    match signature.flagLettered? letter with
    | none => .error .unknownArgument
    | some flag => do (← given.addFlag flag).addLetters signature rest

/-- The name of an option and the value behind its equals sign. -/
def splitValue (word : Text) : Text × Option Text :=
  match word.dropWhile (· != '=') with
  | [] => (word, none)
  | _ :: value => (word.takeWhile (· != '='), some value)

/-- Add a word that stands before any `--`. -/
def addWord (signature : Signature) (given : Given) (word : Text) : Except UsageError Given :=
  match word with
  | '-' :: '-' :: option =>
    let (name, value) := splitValue option
    given.addNamed signature name value
  | '-' :: c :: letters => given.addLetters signature (c :: letters)
  | _ =>
    if given.waiting == some none then .ok { given with waiting := some (some word) }
    else given.addQuery signature word

/-- Read the words behind the name of a command. -/
def read (signature : Signature) (given : Given) : List Text → Except UsageError Given
  | [] => given.settle
  | word :: rest =>
    if word == "--".toList then do
      (← rest.foldlM (addQuery signature) given).settle
    else do (← given.addWord signature word).read signature rest

end Given

namespace Command

/-- Read a request to convert queries. -/
def readConvert (words : List Text) : Except UsageError Command := do
  let given ← Given.nothing.read .convert words
  let has := fun flag => given.flags.contains flag
  if has .strict && has .lenient then throw .conflict
  else if given.queries.isEmpty then throw .missingQuery
  else
    let request : ConvertRequest :=
      ⟨given.queries, has .strict, has .lenient, has .anyCase, given.stemmer, has .json⟩
    return .convert request

/-- Read a request to list tokens. -/
def readTokens (words : List Text) : Except UsageError Command := do
  let given ← Given.nothing.read .tokens words
  match given.queries with
  | [] => throw .missingQuery
  | query :: _ => return .tokens query (given.flags.contains .anyCase)

/-- Read a request to create a settings file. -/
def readInit (words : List Text) : Except UsageError Command := do
  let given ← Given.nothing.read .init words
  return .init (given.flags.contains .global) (given.flags.contains .force)

/-- Read a request to show the settings. -/
def readConfig (words : List Text) : Except UsageError Command := do
  let _ ← Given.nothing.read .config words
  return .config

/-- The names of commands that help can be asked about. -/
def names : List Text :=
  ["convert", "tokens", "init", "config", "help"]

/-- The outcome of asking for help about commands: at most one that exists can be named. -/
def helpOn : List Text → UsageError
  | [] => .helpRequested
  | [name] => if names.contains name then .helpRequested else .unknownCommand
  | _ :: _ :: _ => .unknownCommand

/-- The mistake in a word that looks like an option but stands before the command; only help can be
asked for there. -/
def outerOption (word : Text) : UsageError :=
  match Given.nothing.addWord .config word with
  | .error error => error
  | .ok _ => .unknownArgument

/-- Read the words of a command line. -/
def ofArguments : List Text → Except UsageError Command
  | [] => throw .nothingGiven
  | name :: rest =>
    if name == "--".toList then throw (if rest.isEmpty then .nothingGiven else .unknownArgument)
    else if name == "convert".toList then readConvert rest
    else if name == "tokens".toList then readTokens rest
    else if name == "init".toList then readInit rest
    else if name == "config".toList then readConfig rest
    else if name == "help".toList then throw (helpOn rest)
    else match name with
      | '-' :: _ :: _ => throw (outerOption name)
      | _ => throw .unknownCommand

end Command
end BoolQuery
