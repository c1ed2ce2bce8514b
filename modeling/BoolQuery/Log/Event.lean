import BoolQuery.Text.CodePoint
import BoolQuery.Text.Quoted

/-!
# Log events

An event has a level, a target, which names the part of the program that it comes from, a message
and named fields. Its line shows everything but the target. Characters that a terminal would obey
are escaped in the message; the values of fields come in a form without such characters.
-/

namespace BoolQuery.Log

/-- How severe an event is. -/
inductive Level where
  | error | warn | info | debug | trace
deriving DecidableEq, Repr

namespace Level

/-- The rank of a level: the less severe, the higher. -/
def rank : Level → Nat
  | .error => 1
  | .warn => 2
  | .info => 3
  | .debug => 4
  | .trace => 5

/-- The name of a level in capitals. -/
def name : Level → Text
  | .error => "ERROR"
  | .warn => "WARN"
  | .info => "INFO"
  | .debug => "DEBUG"
  | .trace => "TRACE"

/-- Every level, most severe first. -/
def all : List Level :=
  [.error, .warn, .info, .debug, .trace]

end Level

/-- Something that happened. -/
structure Event where
  level : Level
  /-- The part of the program that the event comes from. -/
  target : Text
  message : Text
  /-- The names and values of the fields. -/
  fields : List (Text × Text)
deriving DecidableEq, Repr

namespace Event

/-- One character of a message. The bell, backspace, form feed, escape and delete characters and
those from U+0080 to U+009F are escaped. -/
def encodeChar (c : Char) : Text :=
  let code := c.toNat
  if code == 0x07 || code == 0x08 || code == 0x0c || code == 0x1b || code == 0x7f then
    "\\x".toList ++ Text.hexPair code
  else if 0x80 ≤ code && code ≤ 0x9f then
    "\\u\x7b".toList ++ Text.hexDigits code ++ ['\x7d']
  else [c]

/-- The line of an event. -/
def line (event : Event) : Text :=
  let fields := event.fields.flatMap fun (name, value) => [' '] ++ name ++ ['='] ++ value
  Text.line (event.level.name ++ [' '] ++ event.message.flatMap encodeChar ++ fields)

end Event
end BoolQuery.Log
