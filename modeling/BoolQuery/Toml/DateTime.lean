import BoolQuery.Text.Basic

/-!
# Date and time literals

A date is written with four, two and two digits, a time with two digits for the hour, the minute
and, if present, the second, which may have a fraction. Both together are separated by `T` or one
space and may end with an offset from universal time. The day must exist in the Gregorian calendar;
a minute may have a leap second.
-/

namespace BoolQuery.Toml.DateTime

/-- The number that the first `count` characters of a text denote, all of which have to be digits,
and the rest of the text. -/
def digits? : (count : Nat) → Text → Option (Nat × Text)
  | 0, text => some (0, text)
  | _ + 1, [] => none
  | count + 1, c :: rest =>
    if c.isDigit then (digits? count rest).map fun (value, after) =>
      ((c.toNat - '0'.toNat) * Nat.pow 10 count + value, after)
    else none

/-- The rest of a text behind a given character. -/
def behind? (expected : Char) : Text → Option Text
  | [] => none
  | c :: rest => if c == expected then some rest else none

/-- Whether a year has a 29th of February. -/
def isLeapYear (year : Nat) : Bool :=
  (year % 4 == 0 && year % 100 != 0) || year % 400 == 0

/-- The number of days of a month; a number that is no month has none. -/
def daysInMonth (year month : Nat) : Nat :=
  match month with
  | 1 | 3 | 5 | 7 | 8 | 10 | 12 => 31
  | 4 | 6 | 9 | 11 => 30
  | 2 => if isLeapYear year then 29 else 28
  | _ => 0

/-- The rest of a text behind the date that it starts with. -/
def behindDate? (text : Text) : Option Text := do
  let (year, text) ← digits? 4 text
  let (month, text) ← digits? 2 (← behind? '-' text)
  let (day, text) ← digits? 2 (← behind? '-' text)
  if 1 ≤ day && day ≤ daysInMonth year month then return text else none

/-- The rest of a text behind the fraction of a second that it may start with. -/
def behindFraction? : Text → Option Text
  | '.' :: rest => if rest.head?.any Char.isDigit then some (rest.dropWhile Char.isDigit) else none
  | text => some text

/-- The rest of a text behind the seconds that it may start with. -/
def behindSeconds? : Text → Option Text
  | ':' :: rest => do
    let (second, text) ← digits? 2 rest
    if second ≤ 60 then behindFraction? text else none
  | text => some text

/-- The rest of a text behind the hour and minute that it starts with. -/
def behindMinutes? (text : Text) : Option Text := do
  let (hour, text) ← digits? 2 text
  let (minute, text) ← digits? 2 (← behind? ':' text)
  if hour ≤ 23 && minute ≤ 59 then return text else none

/-- The rest of a text behind the time of day that it starts with. -/
def behindTime? (text : Text) : Option Text := do
  behindSeconds? (← behindMinutes? text)

/-- Whether a text is empty or an offset from universal time. -/
def isOffset : Text → Bool
  | [] => true
  | ['Z'] | ['z'] => true
  | c :: rest => (c == '+' || c == '-') && behindMinutes? rest == some []

/-- Whether a character may stand between a date and a time. -/
def isSeparator (c : Char) : Bool :=
  c == 'T' || c == 't' || c == ' '

/-- Whether a word is a date, a time of day, or both together with or without an offset. -/
def isLiteral (word : Text) : Bool :=
  match behindDate? word with
  | some [] => true
  | some (separator :: time) => isSeparator separator && (behindTime? time).any isOffset
  | none => behindTime? word == some []

end BoolQuery.Toml.DateTime
