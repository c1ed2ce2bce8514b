import BoolQuery.Text.Basic

/-!
# Paths

A path is a text, shown as it was written. What it says is read off its text alone, without looking
at any file: slashes separate segments; an empty segment, and a segment `.` that is not the first
one of a relative path, says nothing; every other segment is a component, `..` included. Two paths
mean the same if their components are equal.
-/

namespace BoolQuery

/-- A path as it was written. -/
structure Path where
  text : Text
deriving DecidableEq, Repr

namespace Path

/-- A part of a path that says something. -/
inductive Component where
  /-- The slash that makes a path absolute. -/
  | root
  /-- The dot that a relative path starts with. -/
  | here
  /-- The step to a parent directory. -/
  | up
  | name (name : Text)
deriving DecidableEq, Repr

/-- A segment that says nothing unless it is the first one of a relative path. -/
def isSilent (segment : Text) : Bool :=
  segment.isEmpty || segment == ['.']

/-- Split the text of a path into the slash or dot that it starts with, if it does, and its
segments. -/
def split (path : Path) : Text × List Text :=
  match path.text with
  | '/' :: rest => (['/'], Text.splitAtEach '/' rest)
  | ['.'] => (['.'], [])
  | '.' :: '/' :: rest => (['.'], Text.splitAtEach '/' ('/' :: rest))
  | text => ([], Text.splitAtEach '/' text)

/-- The component that a segment stands for. -/
def component (segment : Text) : Component :=
  if segment == "..".toList then .up else .name segment

/-- The components of a path. -/
def components (path : Path) : List Component :=
  let (start, segments) := path.split
  let first := if start == ['/'] then [.root] else if start == ['.'] then [.here] else []
  first ++ (segments.filter (!isSilent ·)).map component

/-- Whether two paths mean the same. -/
def same (left right : Path) : Bool :=
  left.components == right.components

/-- Whether a path does not depend on the working directory. -/
def isAbsolute (path : Path) : Bool :=
  path.text.head? == some '/'

/-- The paths that are left when components are taken from the end of a path one after another,
given the start of the path and its segments, last one first. Segments that say nothing are never
left at the end. The dot at the start of a relative path is the last component to be taken. -/
def parentsFrom (start : Text) : List Text → List Path
  | [] => if start == ['.'] then [⟨[]⟩] else []
  | segment :: rest =>
    if isSilent segment then parentsFrom start rest
    else ⟨start ++ Text.joinWith ['/'] (rest.dropWhile isSilent).reverse⟩ :: parentsFrom start rest

/-- The parent of a path, its parent, and so on. -/
def parents (path : Path) : List Path :=
  parentsFrom path.split.1 path.split.2.reverse

/-- A path without its last component; a path without components, and the root, have none. -/
def parent? (path : Path) : Option Path :=
  path.parents.head?

/-- A path and its parents, nearest first. -/
def selfAndParents (path : Path) : List Path :=
  path :: path.parents

/-- The path of a name within a directory. -/
def child (directory : Path) (name : Text) : Path :=
  match directory.text.getLast? with
  | none => ⟨name⟩
  | some '/' => ⟨directory.text ++ name⟩
  | some _ => ⟨directory.text ++ '/' :: name⟩

end Path
end BoolQuery
