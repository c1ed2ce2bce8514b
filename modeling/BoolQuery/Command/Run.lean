import BoolQuery.Command.Arguments
import BoolQuery.Command.History
import BoolQuery.Command.Report
import BoolQuery.Settings.Discovery
import BoolQuery.Settings.Template

/-!
# Running commands

A command reads the file tree and leaves one behind, which differs only where a settings file was
created. It writes results to the output, and log lines and complaints to the error output. Every
command but the one that creates a settings file loads the settings for the working directory
first.
-/

namespace BoolQuery

/-- What a command leaves behind. -/
structure Outcome where
  /-- The exit code: zero for success. -/
  code : Nat
  output : Text
  errors : Text
  files : FileTree

namespace ConvertRequest

/-- The converter that settings and request ask for together: the request overrides. -/
def converter [SuppliedStems] (request : ConvertRequest) (settings : Settings) :
    Except UnsupportedLanguage Converter :=
  let strict := !request.lenient && (request.strict || settings.query.strict)
  let anyCase := request.anyCase || settings.query.anyCase
  (Stemmer.ofName (request.stemmer.getD settings.query.stemmer)).map fun stemmer =>
    ⟨stemmer.normalize, ⟨strict, anyCase⟩⟩

/-- The answers to the queries of a request. -/
def answers (request : ConvertRequest) (converter : Converter) : List Answer :=
  request.queries.map fun query => ⟨query, converter.convert query⟩

end ConvertRequest

namespace Command

/-- A line that reports an error. -/
def errorLine (message : Text) : Text :=
  Text.line ("error: ".toList ++ message)

/-- Convert queries with loaded settings. -/
def runConvert [SuppliedStems] (files : FileTree) (filter : Log.Filter) (settings : Settings)
    (request : ConvertRequest) : Outcome :=
  match request.converter settings with
  | .error refusal => ⟨1, [], errorLine refusal.message, files⟩
  | .ok converter =>
    let answers := request.answers converter
    let code := if answers.any Answer.isRejected then 1 else 0
    let log := filter.lines (Log.Event.ofQueries converter request.queries)
    if request.json then ⟨code, Answer.document answers, log, files⟩
    else ⟨code, answers.flatMap Answer.line, log ++ answers.flatMap Answer.complaint, files⟩

/-- List the tokens of a query with loaded settings. -/
def runTokens (files : FileTree) (settings : Settings) (query : Text) (anyCase : Bool) : Outcome :=
  match Token.ofQuery (anyCase || settings.query.anyCase) query with
  | [] => ⟨0, [], Text.line "no tokens", files⟩
  | first :: rest => ⟨0, (PlacedToken.table (first :: rest)).render, [], files⟩

/-- Show loaded settings. -/
def runConfig (files : FileTree) (settings : Settings) : Outcome :=
  let sources := settings.sources.flatMap fun path => Text.line ("# from ".toList ++ path.text)
  let complaints := settings.warnings.flatMap fun warning =>
    Text.line ("warning: ".toList ++ warning.message)
  ⟨if settings.warnings.isEmpty then 0 else 1, sources ++ settings.query.render, complaints, files⟩

/-- Whether a settings file created in the working directory would be the global one. -/
def isAtHome (environment : Environment) : Bool :=
  environment.globalPath.parent?.any (·.same environment.directory.path)

/-- Create a settings file, in the home directory if that is asked for or is the working
directory. -/
def runInit (environment : Environment) (global force : Bool) : Outcome :=
  let global := global || isAtHome environment
  let path :=
    if global then environment.globalPath else environment.directory.path.child Settings.fileName
  let content := if global then Template.globalText else Template.localText
  if environment.files.exists? environment.directory path && !force then
    ⟨1, [], errorLine ("configuration file already exists: ".toList ++ path.text) ++
      Text.line "use --force to overwrite", environment.files⟩
  else
    match environment.files.write environment.directory path (String.ofList content).toUTF8 with
    | .error cause =>
      let message := "failed to write ".toList ++ path.text ++ ": ".toList ++ cause.message
      ⟨1, [], errorLine message, environment.files⟩
    | .ok files => ⟨0, Text.line ("Created ".toList ++ path.text), [], files⟩

/-- Load the settings for the working directory and act on them. -/
def withSettings (environment : Environment) (filter : Log.Filter) (act : Settings → Outcome) :
    Outcome :=
  match environment.load environment.directory.path with
  | .error error =>
    ⟨1, [], errorLine ("failed to load configuration: ".toList ++ error.message),
      environment.files⟩
  | .ok settings =>
    let outcome := act settings
    { outcome with errors := filter.lines (Log.Event.ofSettings settings) ++ outcome.errors }

/-- Run a command. -/
def run [SuppliedStems] (environment : Environment) (filter : Log.Filter) : Command → Outcome
  | .convert request =>
    withSettings environment filter fun settings =>
      runConvert environment.files filter settings request
  | .tokens query anyCase =>
    withSettings environment filter fun settings =>
      runTokens environment.files settings query anyCase
  | .init global force => runInit environment global force
  | .config => withSettings environment filter (runConfig environment.files)

/-- Run the command that the words of a command line name. -/
def runArguments [SuppliedStems] (environment : Environment) (filter : Log.Filter)
    (arguments : List Text) : Except UsageError Outcome :=
  (ofArguments arguments).map (run environment filter)

end Command
end BoolQuery
