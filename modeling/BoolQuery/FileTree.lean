import BoolQuery.Path

/-!
# File trees

A file tree says what is found at every location, a location being the list of names that leads to
it from the root. Paths are resolved the way an operating system does: from the root or from the
working directory, segment by segment, where every segment, even one that says nothing, requires
that the location reached so far is a directory.
-/

namespace BoolQuery

/-- The names that lead from the root to a file or directory. -/
abbrev Location := List Text

/-- What is found at a location. -/
inductive Entry where
  | file (content : ByteArray)
  | directory

/-- What is found at every location, if anything. -/
structure FileTree where
  entry? : Location → Option Entry

/-- The reasons why a file cannot be read or written. -/
inductive FileError where
  | missing
  | isDirectory
  | notDirectory
  /-- The content of a file is not the UTF-8 form of a text. -/
  | invalidText
deriving DecidableEq, Repr

namespace FileError

/-- The words of the operating system for an error. -/
def message : FileError → Text
  | .missing => "No such file or directory (os error 2)"
  | .isDirectory => "Is a directory (os error 21)"
  | .notDirectory => "Not a directory (os error 20)"
  | .invalidText => "stream did not contain valid UTF-8"

end FileError

namespace Location

/-- The absolute path of a location. -/
def path (location : Location) : Path :=
  ⟨'/' :: Text.joinWith ['/'] location⟩

/-- The location that one segment of a path leads to from a directory. The root is its own
parent. -/
def step (location : Location) (segment : Text) : Location :=
  if Path.isSilent segment then location
  else if segment == "..".toList then location.dropLast
  else location ++ [segment]

end Location

namespace FileTree

/-- Follow segments from a location. -/
def follow (tree : FileTree) (location : Location) : List Text → Except FileError Location
  | [] => .ok location
  | segment :: rest =>
    match tree.entry? location with
    | none => .error .missing
    | some (.file _) => .error .notDirectory
    | some .directory => tree.follow (location.step segment) rest

/-- The location that a path leads to from a working directory. -/
def locate (tree : FileTree) (directory : Location) (path : Path) : Except FileError Location :=
  if path.text.isEmpty then .error .missing
  else tree.follow (if path.isAbsolute then [] else directory) (Text.splitAtEach '/' path.text)

/-- What a path leads to. -/
def find (tree : FileTree) (directory : Location) (path : Path) : Except FileError Entry := do
  let location ← tree.locate directory path
  match tree.entry? location with
  | none => throw .missing
  | some entry => return entry

/-- Whether a path leads to a file or directory. -/
def exists? (tree : FileTree) (directory : Location) (path : Path) : Bool :=
  match tree.find directory path with
  | .ok _ => true
  | .error _ => false

/-- Whether a path leads to a file. -/
def isFile (tree : FileTree) (directory : Location) (path : Path) : Bool :=
  match tree.find directory path with
  | .ok (.file _) => true
  | _ => false

/-- The text of the file that a path leads to. -/
def readText (tree : FileTree) (directory : Location) (path : Path) : Except FileError Text := do
  match ← tree.find directory path with
  | .directory => throw .isDirectory
  | .file content =>
    match String.fromUTF8? content with
    | none => throw .invalidText
    | some text => return text.toList

/-- The tree with another entry at one location. -/
def put (tree : FileTree) (location : Location) (entry : Entry) : FileTree :=
  ⟨fun other => if other == location then some entry else tree.entry? other⟩

/-- Write the file that a path leads to, with a new content if it exists. -/
def write (tree : FileTree) (directory : Location) (path : Path) (content : ByteArray) :
    Except FileError FileTree := do
  let location ← tree.locate directory path
  match tree.entry? location with
  | some .directory => throw .isDirectory
  | _ => return tree.put location (.file content)

/-- Make a directory at a location and at every location on the way to it. -/
def makeDirectories (tree : FileTree) (location : Location) : FileTree :=
  ⟨fun other => if other.isPrefixOf location then some .directory else tree.entry? other⟩

/-- The tree that holds nothing but its root. -/
def empty : FileTree :=
  ⟨fun location => if location.isEmpty then some .directory else none⟩

end FileTree
end BoolQuery
