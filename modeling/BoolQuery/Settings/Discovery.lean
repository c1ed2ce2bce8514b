import BoolQuery.FileTree
import BoolQuery.Settings.Basic

/-!
# Finding and loading settings

Settings files are looked for in a directory and its parents, nearest first, up to the first file
that says it is the last one. If there is none, the global file in the home directory comes last,
unless it has been found already. Loading reads every file that was found; the first one that cannot
be read or understood is an error.
-/

namespace BoolQuery

/-- What a command finds around it. -/
structure Environment where
  files : FileTree
  /-- The working directory, from which relative paths are resolved. -/
  directory : Location
  /-- The home directory. -/
  home : Path

/-- The reasons why settings cannot be loaded. -/
inductive LoadError where
  /-- A file cannot be read. -/
  | unreadable (path : Path) (cause : FileError)
  /-- A file does not hold settings. -/
  | malformed (path : Path)
deriving DecidableEq, Repr

namespace LoadError

/-- The message of an error. Of a malformed file it does not say more than that. -/
def message : LoadError → Text
  | .unreadable path cause =>
    "failed to read config file ".toList ++ path.text ++ ": ".toList ++ cause.message
  | .malformed path =>
    "failed to parse config file ".toList ++ path.text ++ ": <toml error>".toList

end LoadError

namespace Settings

/-- The name of every settings file. -/
def fileName : Text := ".rpn.toml"

/-- Read a layer from the text of a file. -/
def parseLayer (path : Path) (text : Text) : Except LoadError SourceLayer :=
  match Layer.read? text with
  | none => .error (.malformed path)
  | some layer => .ok ⟨path, layer⟩

/-- The settings files in a directory and its parents that a list of candidates leaves, up to the
first one that ends the search. -/
def upToLast (endsSearch : Path → Bool) : List Path → List Path
  | [] => []
  | path :: rest => if endsSearch path then [path] else path :: upToLast endsSearch rest

end Settings

namespace Environment

/-- The path of the global settings file. -/
def globalPath (environment : Environment) : Path :=
  environment.home.child Settings.fileName

/-- Whether a path means the global settings file. -/
def isGlobal (environment : Environment) (path : Path) : Bool :=
  path.same environment.globalPath

/-- Whether a path leads to a file. -/
def isFile (environment : Environment) (path : Path) : Bool :=
  environment.files.isFile environment.directory path

/-- The text of the file that a path leads to. -/
def readText (environment : Environment) (path : Path) : Except FileError Text :=
  environment.files.readText environment.directory path

/-- Whether a file says that it is the last one. A file that cannot be read or understood does
not. -/
def endsSearch (environment : Environment) (path : Path) : Bool :=
  match environment.readText path with
  | .error _ => false
  | .ok text => (Layer.read? text).any Layer.endsSearch

/-- The settings files on the way from a directory upward. -/
def walk (environment : Environment) (directory : Path) : List Path :=
  let candidates := directory.selfAndParents.map (·.child Settings.fileName)
  Settings.upToLast environment.endsSearch (candidates.filter environment.isFile)

/-- The settings files for a directory, in order of precedence. -/
def discover (environment : Environment) (directory : Path) : List Path :=
  let walked := environment.walk directory
  let global := environment.globalPath
  if walked.any environment.endsSearch || !environment.isFile global ||
      walked.any (·.same global) then walked
  else walked ++ [global]

/-- Read the layer of one file. -/
def loadLayer (environment : Environment) (path : Path) : Except LoadError SourceLayer :=
  match environment.readText path with
  | .error cause => .error (.unreadable path cause)
  | .ok text => Settings.parseLayer path text

/-- Load settings from files given in order of precedence. -/
def loadFiles (environment : Environment) (paths : List Path) : Except LoadError Settings :=
  (paths.mapM environment.loadLayer).map Settings.merge

/-- Load the settings for a directory. -/
def load (environment : Environment) (directory : Path) : Except LoadError Settings :=
  environment.loadFiles (environment.discover directory)

end Environment
end BoolQuery
