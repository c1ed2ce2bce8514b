import BoolQuery.Command.Run

/-!
# The program

The program gathers what a command may look at: the words of the command line, two environment
variables, and the files on the way to every settings file that could matter. It runs the command
on them, writes the settings file that the command created, if any, and shows what it wrote. An
executable is `run` with the stems supplied in the languages that the library has no rules for.
-/

namespace BoolQuery.Program

/-- The locations that following a path passes through, in order. -/
def passedLocations (location : Location) : List Text → List Location
  | [] => [location]
  | segment :: rest => location :: passedLocations (location.step segment) rest

/-- What the file system holds at a location whose parent is a directory. -/
def entryAt (location : Location) : IO (Option Entry) := do
  try
    return some (.file (← IO.FS.readBinFile (String.ofList location.path.text)))
  catch error =>
    match error with
    | .inappropriateType .. => return some .directory
    | _ => return none

/-- Look at locations in order, up to the first one that is no directory. -/
def lookAlong : List Location → IO (List (Location × Entry))
  | [] => return []
  | location :: rest => do
    match ← entryAt location with
    | none => return []
    | some (.file content) => return [(location, .file content)]
    | some .directory => return (location, .directory) :: (← lookAlong rest)

/-- The paths of all settings files that a command could read or write. -/
def settingsPaths (directory : Location) (home : Path) : List Path :=
  (home :: directory.path.selfAndParents).map (·.child Settings.fileName)

/-- The locations that a path leads through from a working directory. -/
def locationsOn (directory : Location) (path : Path) : List Location :=
  passedLocations (if path.isAbsolute then [] else directory) (Text.splitAtEach '/' path.text)

/-- The content of a file that differs between two trees. -/
def changedContent? (before after : FileTree) (location : Location) : Option ByteArray :=
  match before.entry? location, after.entry? location with
  | some (.file old), some (.file new) => if old == new then none else some new
  | _, some (.file new) => some new
  | _, _ => none

/-- Run the program on the words of a command line. -/
def run [SuppliedStems] (arguments : List Text) : IO UInt32 := do
  let directory := (Text.splitAtEach '/' (← IO.currentDir).toString.toList).foldl Location.step []
  let home : Path := ⟨((← IO.getEnv "HOME").getD "/").toList⟩
  let filter := Log.Filter.ofSetting ((← IO.getEnv "RPN_LOG").map String.toList)
  let locations := (settingsPaths directory home).map (locationsOn directory)
  let entries := (← locations.mapM lookAlong).flatten
  let environment : Environment := ⟨⟨fun location => entries.lookup location⟩, directory, home⟩
  match Command.runArguments environment filter arguments with
  | .error error =>
    IO.eprintln (String.ofList error.message)
    return if error == .helpRequested then 0 else 2
  | .ok outcome =>
    for location in locations.flatten do
      if let some content := changedContent? environment.files outcome.files location then
        IO.FS.writeBinFile (String.ofList location.path.text) content
    IO.print (String.ofList outcome.output)
    IO.eprint (String.ofList outcome.errors)
    return outcome.code.toUInt32

end BoolQuery.Program
