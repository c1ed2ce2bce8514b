import BoolQuery.Text.Basic

/-!
# Scanning a word

A scan is a place in a word that is being rewritten: the characters behind the place, the
characters ahead of it, and what has been noted so far. A word is read from its start or, mirrored,
from its end. All reading goes from `ahead` to `behind`, so a mirrored scan of a word is an
ordinary scan of the reversed word; `orient` turns the texts that are sought or written
accordingly.

Marks divide a word into regions and are always counted from its start, whichever way it is read.
-/

namespace BoolQuery.Stemming

/-- The marks that a stemmer can set in a word. -/
inductive Mark where
  /-- The start of the first region. -/
  | p1
  /-- The start of the second region. -/
  | p2
  /-- The start of the verb region. -/
  | pV
  /-- The least value of the first mark. -/
  | least
deriving DecidableEq, Repr

/-- A place in a word that is being rewritten. -/
structure Scan where
  /-- The characters already passed, nearest first. -/
  behind : Text
  /-- The characters to come, nearest first. -/
  ahead : Text
  /-- Whether the word is read from its end. -/
  mirrored : Bool
  /-- How many of the farthest characters ahead must not be read. -/
  reserve : Nat
  /-- How many characters lie behind the start of the slice. -/
  sliceOpen : Nat
  /-- How many characters lie behind the end of the slice. -/
  sliceClose : Nat
  /-- The marks, as distances from the start of the word. -/
  marks : Mark → Nat
  /-- A condition that later rules can ask for. -/
  flag : Bool
  /-- A text that later rules can ask for. -/
  saved : Text

namespace Scan

/-- The scan of a word from its start. -/
def ofWord (word : Text) : Scan :=
  ⟨[], word, false, 0, 0, 0, fun _ => 0, false, []⟩

/-- A text in the direction of reading. -/
def orient (scan : Scan) (text : Text) : Text :=
  if scan.mirrored then text.reverse else text

/-- All characters in the direction of reading. -/
def track (scan : Scan) : Text :=
  scan.behind.reverse ++ scan.ahead

/-- The word as it stands. -/
def word (scan : Scan) : Text :=
  scan.orient scan.track

/-- How many characters lie behind. -/
def position (scan : Scan) : Nat :=
  scan.behind.length

/-- The distance of the place from the start of the word. -/
def index (scan : Scan) : Nat :=
  if scan.mirrored then scan.ahead.length else scan.behind.length

/-- The characters ahead that may be read. -/
def readable (scan : Scan) : Text :=
  scan.ahead.take (scan.ahead.length - scan.reserve)

/-- The same word with `track` read up to `position`. -/
def placeAt (scan : Scan) (track : Text) (position : Nat) : Scan :=
  { scan with behind := (track.take position).reverse, ahead := track.drop position }

/-- Go to the place with a given number of characters behind it. -/
def seek (scan : Scan) (position : Nat) : Scan :=
  scan.placeAt scan.track position

/-- Pass a number of characters. -/
def advance (scan : Scan) (count : Nat) : Scan :=
  scan.seek (scan.position + count)

/-- Pass a text if it comes next. -/
def pass? (scan : Scan) (text : Text) : Option Scan :=
  if (scan.orient text).isPrefixOf scan.readable then some (scan.advance text.length) else none

/-- The text of the slice. -/
def slice (scan : Scan) : Text :=
  scan.orient ((scan.track.take scan.sliceClose).drop scan.sliceOpen)

/-- Where a position ends up when `removed` characters from `start` on become `added` ones. A
position inside them moves to the side of the word's start. -/
def shift (scan : Scan) (start removed added position : Nat) : Nat :=
  if scan.mirrored then
    if position ≤ start then position
    else if position < start + removed then start + added
    else position + added - removed
  else
    if start + removed ≤ position then position + added - removed
    else if start < position then start
    else position

/-- Put a text in the place of the slice. -/
def replaceSlice (scan : Scan) (text : Text) : Scan :=
  let track := scan.track.take scan.sliceOpen ++ scan.orient text ++
    scan.track.drop scan.sliceClose
  scan.placeAt track
    (scan.shift scan.sliceOpen (scan.sliceClose - scan.sliceOpen) text.length scan.position)

/-- Put a text next to the place, on the side of the characters that were read. -/
def insert (scan : Scan) (text : Text) : Scan :=
  { scan with behind := (scan.orient text).reverse ++ scan.behind }

/-- Set a mark to a distance from the start of the word. -/
def setMark (scan : Scan) (mark : Mark) (distance : Nat) : Scan :=
  { scan with marks := fun other => if other = mark then distance else scan.marks other }

/-- The same word read from its end. -/
def fromEnd (scan : Scan) : Scan :=
  { scan with behind := [], ahead := scan.word.reverse, mirrored := true, reserve := 0 }

/-- The same word read from its start. -/
def fromStart (scan : Scan) : Scan :=
  { scan with behind := [], ahead := scan.word, mirrored := false, reserve := 0 }

end Scan
end BoolQuery.Stemming
