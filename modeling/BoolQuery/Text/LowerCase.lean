import BoolQuery.Text.CaseIgnorable
import BoolQuery.Text.Cased
import BoolQuery.Text.LowerMap

/-!
# Lower-casing

`foldEach` lowers every character on its own. `lower` does the same except that a capital sigma
becomes a final sigma where it ends a word: the nearest character before it that is not
case-ignorable is cased, and the nearest one after it is not.
-/

namespace BoolQuery.Text

/-- The lower-case form of a character by itself. A capital sigma becomes the medial one. -/
def lowerChar (c : Char) : Text :=
  if c = 'İ' then ['i', '\u0307']
  else match lowerRuns.find? fun run => run.covers c.toNat with
    | some run => [Char.ofNat (run.apply c.toNat)]
    | none => [c]

/-- Every character in its own lower-case form. -/
def foldEach (text : Text) : Text :=
  text.flatMap lowerChar

/-- Whether the first character that is not case-ignorable exists and is cased. -/
def meetsCased (text : Text) : Bool :=
  match text.dropWhile isCaseIgnorable with
  | [] => false
  | c :: _ => isCased c

/-- The lower-case form of a text that follows `before`, which is given nearest character first. -/
def lowerAfter (before : Text) : Text → Text
  | [] => []
  | c :: rest =>
    let image :=
      if c = 'Σ' then if meetsCased before && !meetsCased rest then ['ς'] else ['σ']
      else lowerChar c
    image ++ lowerAfter (c :: before) rest

/-- The lower-case form of a text. -/
def lower (text : Text) : Text :=
  lowerAfter [] text

end BoolQuery.Text
