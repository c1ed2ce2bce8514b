import BoolQuery.Json.Value
import BoolQuery.Proofs.Toml.Escape

/-!
# JSON documents are read back

A reader for JSON documents that consist of texts, numbers without sign and fraction, lists and
objects. It knows more spellings than the writer uses: any blanks between the parts of a document,
every short escape and every code point by four hexadecimal digits, surrogates aside. Numbers with
leading zeros, control characters within quotes and commas without an element behind them are
refused, as is everything that is no JSON.

What the writer makes of a value is read as this value (`ofText?_line_render`): first within quotes
(`readQuoted?_encode`), then for numbers (`readNumber?_ofNat`), then for items between brackets
whatever the items are (`readItems?_writeItems`), and from these for all values by induction.
-/

namespace BoolQuery.Json

/-! ### The reader -/

/-- A character that may stand between the parts of a document. -/
def isBlank (c : Char) : Bool :=
  c == ' ' || c == '\t' || c == '\n' || c == '\r'

/-- A text without the blanks at its start. -/
def skipBlanks (text : Text) : Text :=
  text.dropWhile isBlank

/-- The character that a backslash and a letter stand for. -/
def shortMeaning? : Char → Option Char
  | '"' => some '"'
  | '\\' => some '\\'
  | '/' => some '/'
  | 'b' => some '\x08'
  | 'f' => some '\x0c'
  | 'n' => some '\n'
  | 'r' => some '\r'
  | 't' => some '\t'
  | _ => none

/-- The place of a reader within quotes. -/
inductive QuoteState where
  /-- Not within an escape. -/
  | outside
  /-- Directly behind a backslash. -/
  | opened
  /-- Before the given number of hexadecimal digits, behind digits of the given value. -/
  | digits (missing value : Nat)
deriving DecidableEq, Repr

/-- The text up to the quote that ends a quotation, and what stands behind it. -/
def readQuoted? : QuoteState → Text → Option (Text × Text)
  | _, [] => none
  | .outside, c :: rest =>
    if c == '"' then some ([], rest)
    else if c == '\\' then readQuoted? .opened rest
    else if c.toNat < 0x20 then none
    else (readQuoted? .outside rest).map (Prod.map (c :: ·) id)
  | .opened, c :: rest =>
    match shortMeaning? c with
    | some meant => (readQuoted? .outside rest).map (Prod.map (meant :: ·) id)
    | none => if c == 'u' then readQuoted? (.digits 4 0) rest else none
  | .digits missing value, c :: rest =>
    match Text.hexValue? c with
    | none => none
    | some digit =>
      let value := 16 * value + digit
      if missing ≤ 1 then
        match Text.codePoint? value with
        | none => none
        | some meant => (readQuoted? .outside rest).map (Prod.map (meant :: ·) id)
      else readQuoted? (.digits (missing - 1) value) rest

/-- The number at the start of a text, and what stands behind it. -/
def readNumber? (text : Text) : Option (Nat × Text) :=
  match text.takeWhile Char.isDigit with
  | [] => none
  | first :: more =>
    if first == '0' && !more.isEmpty then none
    else some (Nat.ofDigitChars 10 (first :: more) 0, text.dropWhile Char.isDigit)

section Items

variable {α : Type} (readItem : Text → Option (α × Text)) (close : Char)

/-- The items behind the first one up to the closing bracket, at most so many, and what stands
behind it. -/
def readMore? : (most : Nat) → Text → Option (List α × Text)
  | 0, _ => none
  | most + 1, text =>
    match skipBlanks text with
    | [] => none
    | c :: rest =>
      if c == close then some ([], rest)
      else if c == ',' then
        match readItem rest with
        | none => none
        | some (item, rest) => (readMore? most rest).map (Prod.map (item :: ·) id)
      else none

/-- The items up to the closing bracket, and what stands behind it. -/
def readItems? (text : Text) : Option (List α × Text) :=
  match skipBlanks text with
  | [] => none
  | c :: rest =>
    if c == close then some ([], rest)
    else match readItem text with
      | none => none
      | some (item, rest) =>
        (readMore? readItem close rest.length rest).map (Prod.map (item :: ·) id)

/-- The member of an object at the start of a text, and what stands behind it. -/
def readMember? (text : Text) : Option ((Text × α) × Text) :=
  match skipBlanks text with
  | '"' :: rest =>
    match readQuoted? .outside rest with
    | none => none
    | some (name, rest) =>
      match skipBlanks rest with
      | ':' :: rest => (readItem rest).map fun (item, rest) => ((name, item), rest)
      | _ => none
  | _ => none

end Items

namespace Value

/-- The value at the start of a text, nested at most so deep, and what stands behind it. -/
def read? : (depth : Nat) → Text → Option (Value × Text)
  | 0, _ => none
  | depth + 1, input =>
    match skipBlanks input with
    | '"' :: rest => (readQuoted? .outside rest).map (Prod.map .text id)
    | '[' :: rest => (readItems? (read? depth) ']' rest).map (Prod.map .list id)
    | '\x7b' :: rest =>
      (readItems? (readMember? (read? depth)) '\x7d' rest).map (Prod.map .object id)
    | rest => (readNumber? rest).map (Prod.map .number id)

/-- The value that a document describes. -/
def ofText? (document : Text) : Option Value :=
  match read? document.length document with
  | some (value, rest) => if (skipBlanks rest).isEmpty then some value else none
  | none => none

/-- The member of an object with a given name. -/
def member? (name : Text) : Value → Option Value
  | .object members => members.lookup name
  | _ => none

end Value

/-! ### Within quotes -/

/-- What the writer makes of a character is read as this character. -/
theorem readQuoted?_encodeChar (c : Char) (rest : Text) :
    readQuoted? .outside (encodeChar c ++ rest) =
      (readQuoted? .outside rest).map (Prod.map (c :: ·) id) := by
  unfold encodeChar
  split
  · next letter found =>
      have meant : shortMeaning? letter = some c := by
        unfold shortEscape? at found
        split at found <;> cases found <;> rfl
      simp [readQuoted?, meant]
  · next unescaped =>
      split
      · next control =>
          have high := Toml.hexValue?_digitChar (c.toNat / 16) (by omega)
          have low := Toml.hexValue?_digitChar (c.toNat % 16) (Nat.mod_lt _ (by decide))
          have zero : Text.hexValue? '0' = some 0 := by decide
          have value : 16 * (c.toNat / 16) + c.toNat % 16 = c.toNat := Nat.div_add_mod _ _
          simp [readQuoted?, shortMeaning?, Text.hexPair, zero, high, low, value,
            Toml.codePoint?_toNat]
      · next readable =>
          have noQuote : c ≠ '"' := fun same => by simp [same, shortEscape?] at unescaped
          have noEscape : c ≠ '\\' := fun same => by simp [same, shortEscape?] at unescaped
          simp [readQuoted?, noQuote, noEscape, readable]

/-- Reading up to the closing quote gives back the text whose characters were encoded. -/
theorem readQuoted?_encode (text rest : Text) :
    readQuoted? .outside (text.flatMap encodeChar ++ '"' :: rest) = some (text, rest) := by
  induction text with
  | nil => simp [readQuoted?]
  | cons c text inductionHypothesis =>
      rw [List.flatMap_cons, List.append_assoc, readQuoted?_encodeChar, inductionHypothesis]
      rfl

/-! ### Numbers -/

/-- No digit follows. -/
def EndsNumber (rest : Text) : Prop := ∀ c, rest.head? = some c → c.isDigit = false

/-- A digit is no blank, so none is skipped before a number. -/
theorem not_isBlank_of_isDigit {c : Char} (isDigit : c.isDigit = true) : isBlank c = false := by
  refine Bool.eq_false_iff.mpr fun blank => ?_
  simp only [isBlank, Bool.or_eq_true, beq_iff_eq, or_assoc] at blank
  rcases blank with rfl | rfl | rfl | rfl <;> cases isDigit

/-- A number is written in digits. -/
theorem isDigit_of_mem_ofNat {n : Nat} {c : Char} (member : c ∈ Text.ofNat n) :
    c.isDigit = true :=
  Nat.isDigit_of_mem_toDigits (by decide) (by decide) member

/-- A number is written with a digit at least. -/
theorem exists_ofNat (n : Nat) : ∃ c rest, Text.ofNat n = c :: rest ∧ c.isDigit = true := by
  obtain ⟨c, rest, digits⟩ := List.exists_cons_of_ne_nil (l := Text.ofNat n) Nat.toDigits_ne_nil
  exact ⟨c, rest, digits, isDigit_of_mem_ofNat (digits ▸ List.mem_cons_self)⟩

/-- No number but zero starts with a zero. -/
theorem head?_ofNat {n : Nat} (positive : 0 < n) : (Text.ofNat n).head? ≠ some '0' := by
  induction n using Nat.strongRecOn with
  | ind n inductionHypothesis =>
      unfold Text.ofNat at inductionHypothesis ⊢
      by_cases small : n < 10
      · rw [Nat.toDigits_of_lt_base small]
        have others : ∀ digit < 10, 0 < digit → [Nat.digitChar digit].head? ≠ some '0' := by decide
        exact others n small positive
      · rw [Nat.toDigits_of_base_le (by decide) (by omega)]
        have before := inductionHypothesis (n / 10) (by omega) (by omega)
        cases digits : Nat.toDigits 10 (n / 10) with
        | nil => exact absurd digits Nat.toDigits_ne_nil
        | cons digit more => simpa [digits] using before

/-- What the writer makes of a number is read as this number. -/
theorem readNumber?_ofNat (n : Nat) {rest : Text} (ends : EndsNumber rest) :
    readNumber? (Text.ofNat n ++ rest) = some (n, rest) := by
  have areDigits : ∀ c ∈ Text.ofNat n, c.isDigit = true := fun _ => isDigit_of_mem_ofNat
  have stops : rest.takeWhile Char.isDigit = [] ∧ rest.dropWhile Char.isDigit = rest := by
    cases rest with
    | nil => exact ⟨rfl, rfl⟩
    | cons c rest => simp [ends c rfl]
  have value : Nat.ofDigitChars 10 (Text.ofNat n) 0 = n :=
    Nat.ofDigitChars_toDigits (by decide) (by decide)
  rw [readNumber?, List.takeWhile_append_of_pos areDigits, List.dropWhile_append_of_pos areDigits,
    stops.1, stops.2, List.append_nil]
  obtain ⟨first, more, digits, _⟩ := exists_ofNat n
  have noZero : (first == '0' && !more.isEmpty) = false := by
    rcases Nat.eq_zero_or_pos n with rfl | positive
    · cases digits
      rfl
    · have head := head?_ofNat positive
      rw [digits] at head
      simp [show first ≠ '0' by simpa using head]
  rw [digits] at value ⊢
  simp only [noZero, Bool.false_eq_true, if_false, value]

/-! ### Items between brackets -/

/-- Line breaks and indentation are skipped. -/
theorem skipBlanks_newLine (level : Nat) (text : Text) :
    skipBlanks (newLine level ++ text) = skipBlanks text := by
  refine List.dropWhile_append_of_pos fun c member => ?_
  rcases List.mem_cons.mp member with rfl | indented
  · rfl
  · rw [List.eq_of_mem_replicate indented]
    rfl

/-- Nothing is skipped before a character that is not blank. -/
theorem skipBlanks_of_not_isBlank {c : Char} (visible : isBlank c = false) (rest : Text) :
    skipBlanks (c :: rest) = c :: rest := by
  simp [skipBlanks, visible]

/-- What the writer makes of an item is read as this item. It starts with a character that is
neither blank nor the closing bracket. -/
structure IsItem {α : Type} (readItem : Text → Option (α × Text)) (close : Char) (written : Text)
    (item : α) : Prop where
  starts : ∃ c rest, written = c :: rest ∧ isBlank c = false ∧ c ≠ close
  reads : ∀ level rest, EndsNumber rest →
    readItem (newLine level ++ (written ++ rest)) = some (item, rest)

section Items

variable {α : Type} {readItem : Text → Option (α × Text)} {close : Char} {write : α → Text}

/-- The items behind the first one and the closing bracket, as they are written. -/
def writeMore (write : α → Text) (close : Char) (level outer : Nat) (items : List α) : Text :=
  (items.flatMap fun item => ',' :: (newLine level ++ write item)) ++ (newLine outer ++ [close])

/-- An item behind the first one stands on a line of its own behind a comma. -/
theorem writeMore_cons (write : α → Text) (close : Char) (level outer : Nat) (item : α)
    (items : List α) (rest : Text) :
    writeMore write close level outer (item :: items) ++ rest =
      ',' :: (newLine level ++
        (write item ++ (writeMore write close level outer items ++ rest))) := by
  simp [writeMore]

/-- No digit follows an item, so a number ends where it should. -/
theorem endsNumber_writeMore (write : α → Text) (close : Char) (level outer : Nat) (items : List α)
    (rest : Text) : EndsNumber (writeMore write close level outer items ++ rest) := by
  intro c first
  cases items <;> cases first <;> rfl

/-- There are fewer items than characters to write them, so the reader's limit is no obstacle. -/
theorem length_lt_length_writeMore (write : α → Text) (close : Char) (level outer : Nat)
    (items : List α) : items.length < (writeMore write close level outer items).length := by
  induction items with
  | nil => simp [writeMore]
  | cons item items inductionHypothesis =>
      have text := writeMore_cons write close level outer item items []
      simp only [List.append_nil] at text
      simp only [text, List.length_cons, List.length_append]
      omega

/-- No item is longer than the list it is written in. -/
theorem length_le_length_writeMore (write : α → Text) (close : Char) (level outer : Nat) {item : α}
    {items : List α} (member : item ∈ items) :
    (write item).length ≤ (writeMore write close level outer items).length := by
  have within := List.sublist_flatten_of_mem
    (List.mem_map_of_mem (f := fun item => ',' :: (newLine level ++ write item)) member)
  have length := within.length_le
  rw [← List.flatMap_def] at length
  simp only [List.length_cons, List.length_append] at length
  rw [writeMore, List.length_append]
  omega

/-- The items behind the first one are read back, by induction on them. -/
theorem readMore?_writeMore {items : List α} {most : Nat} (level outer : Nat) (rest : Text)
    (bracket : isBlank close = false ∧ close ≠ ',')
    (areItems : ∀ item ∈ items, IsItem readItem close (write item) item)
    (enough : items.length < most) :
    readMore? readItem close most (writeMore write close level outer items ++ rest) =
      some (items, rest) := by
  induction items generalizing most with
  | nil =>
      cases most with
      | zero => cases enough
      | succ most =>
          have closes : skipBlanks (writeMore write close level outer [] ++ rest) =
              close :: rest := by
            simp only [writeMore, List.flatMap_nil, List.nil_append, List.append_assoc]
            rw [skipBlanks_newLine]
            exact skipBlanks_of_not_isBlank bracket.1 rest
          simp [readMore?, closes]
  | cons item items inductionHypothesis =>
      obtain ⟨isItem, others⟩ := List.forall_mem_cons.mp areItems
      cases most with
      | zero => cases enough
      | succ most =>
          -- A comma or a line break follows every item, so no number runs on into the next part.
          have ends := endsNumber_writeMore write close level outer items rest
          have reads := isItem.reads level _ ends
          have following := inductionHypothesis others (Nat.lt_of_succ_lt_succ enough)
          rw [writeMore_cons, readMore?, skipBlanks_of_not_isBlank rfl]
          simp [reads, following, bracket.2.symm]

/-- Items and the closing bracket, as they are written. -/
def writeItems (write : α → Text) (close : Char) (level outer : Nat) (first : α) (items : List α) :
    Text :=
  newLine level ++ (write first ++ writeMore write close level outer items)

/-- No item is longer than all items together. -/
theorem length_le_length_writeItems (write : α → Text) (close : Char) (level outer : Nat)
    {first item : α} {items : List α} (member : item ∈ first :: items) :
    (write item).length ≤ (writeItems write close level outer first items).length := by
  simp only [writeItems, List.length_append]
  rcases List.mem_cons.mp member with rfl | later
  · omega
  · have more := length_le_length_writeMore write close level outer later
    omega

/-- What the writer makes of items between brackets is read as these items. -/
theorem readItems?_writeItems {first : α} {items : List α} (level outer : Nat) (rest : Text)
    (bracket : isBlank close = false ∧ close ≠ ',')
    (areItems : ∀ item ∈ first :: items, IsItem readItem close (write item) item) :
    readItems? readItem close (writeItems write close level outer first items ++ rest) =
      some (first :: items, rest) := by
  obtain ⟨isItem, others⟩ := List.forall_mem_cons.mp areItems
  obtain ⟨c, tail, starts, visible, different⟩ := isItem.starts
  have reads := isItem.reads level _ (endsNumber_writeMore write close level outer items rest)
  have enough : items.length < (writeMore write close level outer items ++ rest).length := by
    have most := length_lt_length_writeMore write close level outer items
    rw [List.length_append]
    omega
  have more := readMore?_writeMore level outer rest bracket others enough
  have found : ∀ text,
      skipBlanks (newLine level ++ (write first ++ text)) = c :: (tail ++ text) := by
    intro text
    rw [skipBlanks_newLine, starts, List.cons_append, skipBlanks_of_not_isBlank visible]
  rw [writeItems, List.append_assoc, List.append_assoc, readItems?, found]
  simp [reads, more, different, -List.length_append]

end Items

/-! ### Values -/

namespace Value

/-- A property of all values is proved for lists and objects from their parts. -/
theorem induction {holds : Value → Prop} (ofText : ∀ written, holds (.text written))
    (ofNumber : ∀ value, holds (.number value))
    (ofList : ∀ elements, (∀ element ∈ elements, holds element) → holds (.list elements))
    (ofObject : ∀ members, (∀ member ∈ members, holds member.2) → holds (.object members)) :
    ∀ value, holds value
  | .text written => ofText written
  | .number value => ofNumber value
  | .list elements => ofList elements fun element _ =>
      induction ofText ofNumber ofList ofObject element
  | .object members => ofObject members fun member isMember =>
      have smaller : sizeOf member.2 < 1 + sizeOf members := by
        obtain ⟨name, value⟩ := member
        have whole := List.sizeOf_lt_of_mem isMember
        rw [Prod.mk.sizeOf_spec] at whole
        change sizeOf value < _
        omega
      induction ofText ofNumber ofList ofObject member.2

/-- A member as it is written. -/
def writeMember (level : Nat) (member : Text × Value) : Text :=
  quote member.1 ++ (": ".toList ++ member.2.renderAt level)

/-- The elements behind the first one are written one after another, each behind a comma. -/
theorem renderElements_eq (level : Nat) (elements : List Value) :
    renderElements level elements =
      elements.flatMap fun element => ',' :: (newLine level ++ element.renderAt level) := by
  induction elements with
  | nil => rfl
  | cons element rest inductionHypothesis => simp [renderElements, inductionHypothesis]

/-- The members behind the first one are written one after another, each behind a comma. -/
theorem renderMembers_eq (level : Nat) (members : List (Text × Value)) :
    renderMembers level members =
      members.flatMap fun member => ',' :: (newLine level ++ writeMember level member) := by
  induction members with
  | nil => rfl
  | cons member rest inductionHypothesis =>
      simp [renderMembers, inductionHypothesis, writeMember]

/-- A list with elements is written as items in square brackets. -/
theorem renderAt_list_cons (level : Nat) (first : Value) (elements : List Value) :
    (list (first :: elements)).renderAt level =
      '[' :: writeItems (renderAt (level + 1)) ']' (level + 1) level first elements := by
  simp [renderAt, renderElements_eq, writeItems, writeMore]

/-- An object with members is written as items in curly brackets. -/
theorem renderAt_object_cons (level : Nat) (first : Text × Value) (members : List (Text × Value)) :
    (object (first :: members)).renderAt level =
      '\x7b' :: writeItems (writeMember (level + 1)) '\x7d' (level + 1) level first members := by
  simp [renderAt, renderMembers_eq, writeItems, writeMore, writeMember]

/-- Every value starts with a character that is neither blank nor a closing bracket. -/
theorem exists_renderAt (level : Nat) (value : Value) :
    ∃ c rest, value.renderAt level = c :: rest ∧ isBlank c = false ∧ c ≠ ']' := by
  cases value with
  | text written => exact ⟨'"', _, by rw [renderAt, quote]; rfl, rfl, by decide⟩
  | number value =>
      obtain ⟨c, rest, digits, isDigit⟩ := exists_ofNat value
      refine ⟨c, rest, by rw [renderAt, digits], not_isBlank_of_isDigit isDigit, ?_⟩
      rintro rfl
      cases isDigit
  | list elements =>
      cases elements with
      | nil => exact ⟨'[', [']'], by rw [renderAt]; rfl, rfl, by decide⟩
      | cons first rest => exact ⟨'[', _, renderAt_list_cons level first rest, rfl, by decide⟩
  | object members =>
      cases members with
      | nil => exact ⟨'\x7b', ['\x7d'], by rw [renderAt]; rfl, rfl, by decide⟩
      | cons first rest => exact ⟨'\x7b', _, renderAt_object_cons level first rest, rfl, by decide⟩

/-- Blanks in front of a value make no difference. -/
theorem read?_congr {left right : Text} (same : skipBlanks left = skipBlanks right) (depth : Nat) :
    read? depth left = read? depth right := by
  cases depth with
  | zero => rfl
  | succ depth => rw [read?, read?, same]

/-- A quoted text is read as this text. -/
theorem read?_quote (depth : Nat) (written rest : Text) :
    read? (depth + 1) (quote written ++ rest) = some (.text written, rest) := by
  have quoted : quote written ++ rest = '"' :: (written.flatMap encodeChar ++ '"' :: rest) := by
    simp [quote]
  rw [quoted, read?, skipBlanks_of_not_isBlank rfl]
  simp only [readQuoted?_encode, Option.map_some, Prod.map_apply, id]

/-- A number is read as this number if no digit follows. -/
theorem read?_ofNat (depth value : Nat) {rest : Text} (ends : EndsNumber rest) :
    read? (depth + 1) (Text.ofNat value ++ rest) = some (.number value, rest) := by
  have isRead := readNumber?_ofNat value ends
  obtain ⟨c, more, digits, isDigit⟩ := exists_ofNat value
  rw [digits, List.cons_append] at isRead ⊢
  rw [read?, skipBlanks_of_not_isBlank (not_isBlank_of_isDigit isDigit)]
  split
  case h_4 =>
    rw [isRead]
    rfl
  all_goals
    next same =>
      cases same
      cases isDigit

/-- What the writer makes of a member is read as this member, if this holds for its value. -/
theorem isItem_writeMember {depth level : Nat} {member : Text × Value}
    (reads : ∀ rest, EndsNumber rest →
      read? depth (member.2.renderAt level ++ rest) = some (member.2, rest)) :
    IsItem (readMember? (read? depth)) '\x7d' (writeMember level member) member where
  starts := ⟨'"', _, rfl, rfl, by decide⟩
  reads := by
    intro outer rest ends
    have quoted : writeMember level member ++ rest =
        '"' :: (member.1.flatMap encodeChar ++ '"' :: ':' :: ' ' ::
          (member.2.renderAt level ++ rest)) := by
      simp [writeMember, quote]
    have blank : ∀ text, skipBlanks (' ' :: text) = skipBlanks text := fun _ => rfl
    have spaced : read? depth (' ' :: (member.2.renderAt level ++ rest)) = some (member.2, rest) :=
      (read?_congr (blank _) depth).trans (reads rest ends)
    rw [readMember?, skipBlanks_newLine, quoted, skipBlanks_of_not_isBlank rfl]
    simp only [readQuoted?_encode]
    rw [skipBlanks_of_not_isBlank rfl]
    simp only [spaced, Option.map_some]

/-- A list is read back if its elements are. -/
theorem read?_list {depth level : Nat} {elements : List Value}
    (areItems : ∀ element ∈ elements,
      IsItem (read? depth) ']' (element.renderAt (level + 1)) element) (rest : Text) :
    read? (depth + 1) ((list elements).renderAt level ++ rest) = some (list elements, rest) := by
  cases elements with
  | nil =>
      rw [renderAt]
      rfl
  | cons first elements =>
      rw [renderAt_list_cons, List.cons_append, read?, skipBlanks_of_not_isBlank rfl]
      simp only [readItems?_writeItems (level + 1) level rest ⟨rfl, by decide⟩ areItems]
      rfl

/-- An object is read back if its members are. -/
theorem read?_object {depth level : Nat} {members : List (Text × Value)}
    (areItems : ∀ member ∈ members,
      IsItem (readMember? (read? depth)) '\x7d' (writeMember (level + 1) member) member)
    (rest : Text) :
    read? (depth + 1) ((object members).renderAt level ++ rest) = some (object members, rest) := by
  cases members with
  | nil =>
      rw [renderAt]
      rfl
  | cons first members =>
      rw [renderAt_object_cons, List.cons_append, read?, skipBlanks_of_not_isBlank rfl]
      simp only [readItems?_writeItems (level + 1) level rest ⟨rfl, by decide⟩ areItems]
      rfl

/-- The parts of a list are written shorter than the list. -/
theorem length_renderAt_element (level : Nat) {element : Value} {elements : List Value}
    (member : element ∈ elements) :
    (element.renderAt (level + 1)).length < ((list elements).renderAt level).length := by
  cases elements with
  | nil => cases member
  | cons first elements =>
      rw [renderAt_list_cons]
      exact Nat.lt_succ_of_le (length_le_length_writeItems _ _ _ _ member)

/-- The parts of an object are written shorter than the object. -/
theorem length_renderAt_member (level : Nat) {member : Text × Value}
    {members : List (Text × Value)} (isMember : member ∈ members) :
    (member.2.renderAt (level + 1)).length < ((object members).renderAt level).length := by
  cases members with
  | nil => cases isMember
  | cons first members =>
      rw [renderAt_object_cons]
      have within := length_le_length_writeItems (writeMember (level + 1)) '\x7d' (level + 1) level
        isMember
      simp only [writeMember, List.length_append] at within
      rw [List.length_cons]
      omega

/-- What the writer makes of a value is read as this value. A depth that is the length of what is
written suffices. -/
theorem read?_renderAt (value : Value) : ∀ {depth level : Nat} {rest : Text},
    (value.renderAt level).length ≤ depth → EndsNumber rest →
      read? depth (value.renderAt level ++ rest) = some (value, rest) := by
  have exists_depth : ∀ {value : Value} {depth level : Nat},
      (value.renderAt level).length ≤ depth → ∃ inner, depth = inner + 1 := by
    intro value depth level enough
    obtain ⟨c, more, starts, _⟩ := exists_renderAt level value
    rw [starts] at enough
    exact ⟨depth - 1, (Nat.succ_pred_eq_of_pos (Nat.lt_of_lt_of_le (Nat.succ_pos _) enough)).symm⟩
  induction value using Value.induction with
  | ofText written =>
      intro depth level rest enough _
      obtain ⟨depth, rfl⟩ := exists_depth enough
      rw [renderAt]
      exact read?_quote depth written rest
  | ofNumber value =>
      intro depth level rest enough ends
      obtain ⟨depth, rfl⟩ := exists_depth enough
      rw [renderAt]
      exact read?_ofNat depth value ends
  | ofList elements inductionHypothesis =>
      intro depth level rest enough _
      obtain ⟨depth, rfl⟩ := exists_depth enough
      refine read?_list (fun element member => ?_) rest
      refine ⟨exists_renderAt _ element, fun outer rest ends => ?_⟩
      rw [read?_congr (skipBlanks_newLine outer _)]
      -- Parts are shorter than the whole, so the depth that is left suffices for them.
      have shorter := length_renderAt_element level member
      exact inductionHypothesis element member (by omega) ends
  | ofObject members inductionHypothesis =>
      intro depth level rest enough _
      obtain ⟨depth, rfl⟩ := exists_depth enough
      refine read?_object (fun member isMember => isItem_writeMember fun rest ends => ?_) rest
      have shorter := length_renderAt_member level isMember
      exact inductionHypothesis member isMember (by omega) ends

/-- Every value is read back from the document that the writer makes of it. -/
theorem ofText?_line_render (value : Value) : ofText? (Text.line value.render) = some value := by
  have isRead : read? (Text.line value.render).length (Text.line value.render) =
      some (value, ['\n']) := by
    refine read?_renderAt value ?_ ?_
    · rw [Text.line, List.length_append]
      exact Nat.le_add_right _ _
    · intro c first
      cases first
      rfl
  rw [ofText?, isRead]
  rfl

example : ofText? " [10 ,\"\\u00e9\\/\"]\n".toList =
    some (.list [.number 10, .text "é/".toList]) := by
  rfl

example : ["[1,]", "[01]", "[1 2]", "[1", "[1]]", "\"\t\"", "\"\\ud800\""].all
    (fun document => (ofText? document.toList).isNone) = true := by
  decide +kernel

end Value

end BoolQuery.Json
