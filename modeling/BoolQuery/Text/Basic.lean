/-!
# Texts

A text is the list of its characters, so that every function on texts is a recursion on a list.
Offsets into a text count the bytes of its UTF-8 form, which `byteLength` adds up character by
character. `String` appears only where literals are written and where the program meets its
surroundings.
-/

namespace BoolQuery

/-- A text is the list of its characters. -/
abbrev Text := List Char

/-- A string literal may stand where a text is expected. -/
instance : Coe String Text := ⟨String.toList⟩

namespace Text

/-- The number of bytes in the UTF-8 form of a text. -/
def byteLength : Text → Nat
  | [] => 0
  | c :: rest => c.utf8Size + byteLength rest

@[simp] theorem byteLength_nil : byteLength [] = 0 := rfl

@[simp] theorem byteLength_cons (c : Char) (text : Text) :
    byteLength (c :: text) = c.utf8Size + byteLength text := rfl

@[simp] theorem byteLength_append (front back : Text) :
    byteLength (front ++ back) = byteLength front + byteLength back := by
  induction front with
  | nil => simp
  | cons c rest inductionHypothesis => simp [inductionHypothesis, Nat.add_assoc]

/-- The decimal digits of a number. -/
def ofNat (n : Nat) : Text :=
  Nat.toDigits 10 n

/-- Cut a text at every occurrence of a separator; empty pieces are kept. -/
def splitAtEach (separator : Char) : Text → List Text
  | [] => [[]]
  | c :: rest =>
    if c = separator then [] :: splitAtEach separator rest
    else match splitAtEach separator rest with
      | [] => [[c]]
      | piece :: pieces => (c :: piece) :: pieces

/-- Write texts one after another with a separator between neighbours. -/
def joinWith (separator : Text) : List Text → Text
  | [] => []
  | [text] => text
  | text :: texts => text ++ separator ++ joinWith separator texts

/-- The letters `A` to `Z` in lower case; every other character stays. -/
def foldAscii (text : Text) : Text :=
  text.map Char.toLower

/-- Two texts that differ at most in the case of the letters `a` to `z`. -/
def equalIgnoringCase (left right : Text) : Bool :=
  foldAscii left == foldAscii right

/-- A text followed by a line feed. -/
def line (text : Text) : Text :=
  text ++ ['\n']

end Text
end BoolQuery
