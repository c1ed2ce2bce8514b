import BoolQuery.Stemming.Scan

/-!
# Rules that rewrite words

A rule reads on in a word, may rewrite it, and succeeds or fails. What it has rewritten stays
rewritten even when it fails; the combinators that try a rule only go back to where the rule
started. `a >> b` runs `b` after `a` succeeds, and `a <|> b` runs `b` where `a` started if `a`
fails.

A rule that is repeated either reads on, or shortens the word, or takes a lower-case letter away, so
it can succeed no more often than the word has characters. Repetition stops there.
-/

namespace BoolQuery.Stemming

/-- A rule that rewrites a word and succeeds or fails. -/
structure Rule where
  run : Scan → Bool × Scan

instance : AndThen Rule where
  andThen first second := ⟨fun scan =>
    match first.run scan with
    | (true, scan) => (second ()).run scan
    | (false, scan) => (false, scan)⟩

instance : OrElse Rule where
  orElse first second := ⟨fun scan =>
    match first.run scan with
    | (true, scan) => (true, scan)
    | (false, later) => (second ()).run (later.seek scan.position)⟩

namespace Rule

/-- Succeed and do nothing. -/
def skip : Rule := ⟨fun scan => (true, scan)⟩

/-- Succeed if a condition holds. -/
def require (condition : Scan → Bool) : Rule := ⟨fun scan => (condition scan, scan)⟩

/-- Succeed with a change. -/
def change (f : Scan → Scan) : Rule := ⟨fun scan => (true, f scan)⟩

/-- Run two rules from the same place; both have to succeed. -/
def both (first second : Rule) : Rule := ⟨fun scan =>
  match first.run scan with
  | (true, later) => second.run (later.seek scan.position)
  | (false, later) => (false, later)⟩

/-- Run a rule and come back, whether it succeeds or not. -/
def aside (rule : Rule) : Rule := ⟨fun scan =>
  (true, (rule.run scan).2.seek scan.position)⟩

/-- Run a rule and come back only if it fails. -/
def optional (rule : Rule) : Rule := ⟨fun scan =>
  match rule.run scan with
  | (true, later) => (true, later)
  | (false, later) => (true, later.seek scan.position)⟩

/-- Run a rule and come back if it succeeds. -/
def peek (rule : Rule) : Rule := ⟨fun scan =>
  match rule.run scan with
  | (true, later) => (true, later.seek scan.position)
  | (false, later) => (false, later)⟩

/-- Succeed where a rule fails. -/
def absent (rule : Rule) : Rule := ⟨fun scan =>
  match rule.run scan with
  | (true, later) => (false, later)
  | (false, later) => (true, later.seek scan.position)⟩

/-- Run a rule and fail. -/
def failAfter (rule : Rule) : Rule := ⟨fun scan => (false, (rule.run scan).2)⟩

/-- Run a rule until it fails, at most `fuel` times. -/
def repeatUpTo (rule : Rule) : (fuel : Nat) → Scan → Scan
  | 0, scan => scan
  | fuel + 1, scan =>
    match rule.run scan with
    | (true, later) => repeatUpTo rule fuel later
    | (false, later) => later.seek scan.position

/-- Run a rule until it fails. -/
def many (rule : Rule) : Rule := ⟨fun scan => (true, repeatUpTo rule (scan.track.length + 1) scan)⟩

/-- Run a rule until it fails; it has to succeed at first. -/
def atLeastOnce (rule : Rule) : Rule := rule >> many rule

/-- Read on until a rule succeeds, at most `fuel` characters. The answer is the place where the
rule starts and the place where it ends. -/
def searchUpTo (rule : Rule) : (fuel : Nat) → Scan → Bool × Nat × Scan
  | 0, scan => (false, scan.position, scan)
  | fuel + 1, scan =>
    match rule.run scan with
    | (true, later) => (true, scan.position, later)
    | (false, later) =>
      let back := later.seek scan.position
      if back.readable.isEmpty then (false, scan.position, back)
      else searchUpTo rule fuel (back.advance 1)

/-- Read on to the nearest place where a rule succeeds. -/
def seekTo (rule : Rule) : Rule := ⟨fun scan =>
  match searchUpTo rule (scan.ahead.length + 1) scan with
  | (true, start, later) => (true, later.seek start)
  | (false, _, later) => (false, later)⟩

/-- Read on past the nearest place where a rule succeeds. -/
def seekPast (rule : Rule) : Rule := ⟨fun scan =>
  match searchUpTo rule (scan.ahead.length + 1) scan with
  | (found, _, later) => (found, later)⟩

/-- Read a number of characters. -/
def hop (count : Nat) : Rule := ⟨fun scan =>
  if count ≤ scan.readable.length then (true, scan.advance count) else (false, scan)⟩

/-- Read one character. -/
def next : Rule := hop 1

/-- Read one character for which a condition holds. -/
def character (condition : Char → Bool) : Rule := ⟨fun scan =>
  match scan.readable with
  | c :: _ => if condition c then (true, scan.advance 1) else (false, scan)
  | [] => (false, scan)⟩

/-- Read one of the given letters. -/
def letter (letters : Text) : Rule := character letters.contains

/-- Read a character other than the given letters. -/
def otherThan (letters : Text) : Rule := character fun c => !letters.contains c

/-- Read a text. -/
def literal (text : Text) : Rule := ⟨fun scan =>
  match scan.pass? text with
  | some later => (true, later)
  | none => (false, scan)⟩

/-- Succeed if nothing more may be read. -/
def atLimit : Rule := require fun scan => scan.readable.isEmpty

/-- Start the slice here. -/
def openSlice : Rule := change fun scan => { scan with sliceOpen := scan.position }

/-- End the slice here. -/
def closeSlice : Rule := change fun scan => { scan with sliceClose := scan.position }

/-- Make the slice of what a rule reads. -/
def slice (rule : Rule) : Rule := openSlice >> rule >> closeSlice

/-- Write a text in the place of the slice. -/
def rewrite (text : Text) : Rule := change (·.replaceSlice text)

/-- Take the slice out of the word. -/
def erase : Rule := rewrite []

/-- Write a text here. -/
def insert (text : Text) : Rule := change (·.insert text)

/-- Save the text of the slice. -/
def saveSlice : Rule := change fun scan => { scan with saved := scan.slice }

/-- Read the saved text. -/
def savedText : Rule := ⟨fun scan => (literal scan.saved).run scan⟩

/-- Set the flag. -/
def setFlag : Rule := change fun scan => { scan with flag := true }

/-- Clear the flag. -/
def clearFlag : Rule := change fun scan => { scan with flag := false }

/-- Succeed if the flag is set. -/
def flagged : Rule := require Scan.flag

/-- Set a mark here. -/
def setMark (mark : Mark) : Rule := change fun scan => scan.setMark mark scan.index

/-- Set a mark behind the last character of the word. -/
def setMarkAtEnd (mark : Mark) : Rule := change fun scan => scan.setMark mark scan.track.length

/-- Succeed if a mark lies before another one, and move it there. -/
def raiseMark (mark target : Mark) : Rule := ⟨fun scan =>
  if scan.marks mark < scan.marks target then (true, scan.setMark mark (scan.marks target))
  else (false, scan)⟩

/-- Succeed if the place is exactly at a mark. -/
def atMark (mark : Mark) : Rule := require fun scan => scan.index == scan.marks mark

/-- Succeed if the place is in the region that starts at a mark. -/
def inRegion (mark : Mark) : Rule := require fun scan => scan.marks mark ≤ scan.index

/-- Run a rule that must not read anything outside the region that starts at a mark. -/
def within (mark : Mark) (rule : Rule) : Rule := ⟨fun scan =>
  if scan.index < scan.marks mark then (false, scan)
  else
    let (success, later) := rule.run { scan with reserve := scan.marks mark }
    (success, { later with reserve := scan.reserve })⟩

/-- Run a rule on the word read from its end. -/
def fromEnd (rule : Rule) : Rule := ⟨fun scan =>
  let (success, later) := rule.run scan.fromEnd
  (success, later.fromStart)⟩

/-- What a rule makes of a word. Its success does not matter. -/
def apply (rule : Rule) (word : Text) : Text :=
  (rule.run (.ofWord word)).2.word

end Rule
end BoolQuery.Stemming
