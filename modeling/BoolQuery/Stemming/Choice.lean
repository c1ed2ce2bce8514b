import BoolQuery.Stemming.Rule

/-!
# Choosing among texts

Most rules of a stemmer look for the longest of several texts that comes next and then act on the
one that was found. A choice may come with a guard, which has to succeed behind the text for the
choice to count.
-/

namespace BoolQuery.Stemming

/-- A text to look for and what to do when it is the longest one found. -/
structure Choice where
  text : Text
  /-- Has to succeed right behind the text. -/
  guard : Rule
  action : Rule

namespace Choice

/-- Whether a choice comes next, and the place behind its text. -/
def pass? (choice : Choice) (scan : Scan) : Option Scan :=
  match scan.pass? choice.text with
  | none => none
  | some later => if (choice.guard.run later).1 then some later else none

/-- The longest choice that comes next, with the place behind its text. -/
def longest (choices : List Choice) (scan : Scan) : Option (Choice × Scan) :=
  choices.foldl (fun best choice =>
    match choice.pass? scan, best with
    | none, _ => best
    | some later, none => some (choice, later)
    | some later, some (other, place) =>
      if other.text.length < choice.text.length then some (choice, later)
      else some (other, place)) none

end Choice

/-- Several texts with one action. -/
def on (texts : List String) (action : Rule) : List Choice :=
  texts.map fun text => ⟨text.toList, .skip, action⟩

/-- Several texts that count only where a guard succeeds behind them, with one action. -/
def onGuarded (guard : Rule) (texts : List String) (action : Rule) : List Choice :=
  texts.map fun text => ⟨text.toList, guard, action⟩

namespace Rule

/-- Read the longest choice that comes next, run `found`, and then the action of the choice. -/
def among (found : Rule) (choices : List Choice) : Rule := ⟨fun scan =>
  match Choice.longest choices scan with
  | none => (false, scan)
  | some (choice, later) => (found >> choice.action).run later⟩

/-- The same for a choice that becomes the slice. -/
def sliceAmong (found : Rule) (choices : List Choice) : Rule :=
  openSlice >> among (closeSlice >> found) choices

/-- Make a slice of the longest choice in the region that starts at a mark; its action is free to
read outside the region. -/
def sliceAmongWithin (mark : Mark) (choices : List Choice) : Rule := ⟨fun scan =>
  if scan.index < scan.marks mark then (false, scan)
  else
    let start := { scan with reserve := scan.marks mark, sliceOpen := scan.position }
    match Choice.longest choices start with
    | none => (false, { start with reserve := scan.reserve })
    | some (choice, later) =>
      (closeSlice >> choice.action).run { later with reserve := scan.reserve }⟩

/-- Run the action of the longest choice that comes next without reading it. -/
def peekAmong (choices : List Choice) : Rule := ⟨fun scan =>
  match Choice.longest choices scan with
  | none => (false, scan)
  | some (choice, _) => choice.action.run scan⟩

/-- Read the longest of several texts that comes next. -/
def oneOf (texts : List String) : Rule :=
  among skip (on texts skip)

end Rule
end BoolQuery.Stemming
