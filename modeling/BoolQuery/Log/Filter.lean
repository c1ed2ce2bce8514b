import BoolQuery.Log.Event
import BoolQuery.Text.Blank

/-!
# Log filters

A filter is a list of directives, each of which lets events up to a level pass for all targets that
start with a given text. Of the directives that speak of a target, the one with the longest text
decides, and an event that none speaks of is held back. The text form of a filter separates
directives by commas; a text that is no filter, and a missing one, stand for warnings and errors.
-/

namespace BoolQuery.Log

/-- Which events of some targets pass. -/
structure Directive where
  /-- The text that the targets start with. -/
  target : Text
  /-- Whether only events within a span are meant. No event of this program is. -/
  withinSpan : Bool
  /-- The least severe level that passes; nothing passes if there is none. -/
  level : Option Level
deriving DecidableEq, Repr

/-- The directives that decide which events pass. -/
abbrev Filter := List Directive

namespace Directive

/-- The number that a text of digits denotes, with or without a plus sign. -/
def number? (text : Text) : Option Nat :=
  let digits := match text with
    | '+' :: rest => rest
    | text => text
  if digits.isEmpty || !digits.all Char.isDigit then none
  else some (digits.foldl (fun value digit => 10 * value + (digit.toNat - '0'.toNat)) 0)

/-- The bound that a text names: a level or `off` by name, in either case, or by rank. -/
def bound? (text : Text) : Option (Option Level) :=
  match number? text with
  | some 0 => some none
  | some rank => (Level.all.find? fun level => level.rank == rank).map some
  | none =>
    if Text.equalIgnoringCase text "off" then some none
    else (Level.all.find? fun level => Text.equalIgnoringCase text level.name).map some

/-- The bound behind the equals sign of a directive; without a name everything passes. -/
def boundOrTrace? (text : Text) : Option (Option Level) :=
  if text.isEmpty then some (some .trace) else bound? text

/-- Whether a directive may start with a character. -/
def isStart (c : Char) : Bool :=
  c.isAlphanum || c.toNat ≥ 0x80 || c == '-' || c == ':' || c == '_' || c == '['

/-- Read what follows the bracket that opens the name of a span. -/
def ofSpan? (target rest : Text) : Option Directive :=
  match (rest.dropWhile (· != ']')).drop 1 with
  | [] => if rest.getLast? == some ']' then some ⟨target, true, some .trace⟩ else none
  | '=' :: bound => (boundOrTrace? bound).map (⟨target, true, ·⟩)
  | _ :: _ => none

/-- Read a directive: a level, or a target that may be followed by the name of a span in brackets
and a level behind an equals sign. Blanks are part of a target, but none may stand before a target
with a level of its own. -/
def ofText? (text : Text) : Option Directive :=
  if !(Text.trim text).head?.any isStart then none
  else
    let target := text.takeWhile fun c => c != '=' && c != '['
    match text.dropWhile fun c => c != '=' && c != '[' with
    | '=' :: bound =>
      if target.head?.any Text.isBlank then none
      else (boundOrTrace? bound).map (⟨target, false, ·⟩)
    | '[' :: span => ofSpan? target span
    | _ =>
      match bound? text with
      | some bound => some ⟨[], false, bound⟩
      | none => some ⟨text, false, some .trace⟩

/-- Whether a directive speaks of the events of a target. -/
def concerns (directive : Directive) (target : Text) : Bool :=
  !directive.withinSpan && directive.target.isPrefixOf target

end Directive

namespace Filter

/-- Errors alone pass. -/
def errorsOnly : Filter := [⟨[], false, some .error⟩]

/-- Warnings and errors pass. -/
def standard : Filter := [⟨[], false, some .warn⟩]

/-- Read a filter. -/
def ofText? (text : Text) : Option Filter :=
  match (Text.splitAtEach ',' text).filter (!·.isEmpty) with
  | [] => some errorsOnly
  | pieces => pieces.mapM Directive.ofText?

/-- The filter that a setting asks for. -/
def ofSetting (setting : Option Text) : Filter :=
  (setting.bind ofText?).getD standard

/-- The directive that decides about a target: the one with the longest text, of several with the
same text the last. -/
def deciding (filter : Filter) (target : Text) : Option Directive :=
  (filter.filter (·.concerns target)).foldl
    (fun best directive => match best with
      | none => some directive
      | some other =>
        if other.target.length ≤ directive.target.length then some directive else some other) none

/-- Whether an event passes. -/
def passes (filter : Filter) (event : Event) : Bool :=
  match filter.deciding event.target with
  | none => false
  | some directive => directive.level.any fun bound => event.level.rank ≤ bound.rank

/-- The lines of the events that pass. -/
def lines (filter : Filter) (events : List Event) : Text :=
  (events.filter filter.passes).flatMap Event.line

end Filter
end BoolQuery.Log
