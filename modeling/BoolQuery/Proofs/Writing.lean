import BoolQuery.Proofs.Keyword
import BoolQuery.Proofs.Segments

/-!
# Written queries

`Written` says how a list of tokens may be written one after another, and `Writes` adds blank
characters at both ends. Neighbours need a space between them unless the left one opens a group or
the right one closes a group. `Writes.map_token` says that a query is read as the tokens it writes,
provided that its terms are words.
-/

namespace BoolQuery

/-- A word of the query language: a text that holds no blank character and no parenthesis and writes
no operator. -/
structure IsWord (anyCase : Bool) (text : Text) : Prop where
  filled : text ≠ []
  notBlank : ∀ c ∈ text, Text.isBlank c = false
  notOpen : '(' ∉ text
  notClose : ')' ∉ text
  notKeyword : ∀ op : Operator, ¬ op.Spells anyCase text

/-- Being a word is checked character by character and operator by operator. -/
theorem isWord_iff {anyCase : Bool} {text : Text} :
    IsWord anyCase text ↔ text ≠ [] ∧ text.all (fun c => !Text.isBlank c) = true ∧ '(' ∉ text ∧
      ')' ∉ text ∧ ∀ op ∈ Operator.all, ¬ op.Spells anyCase text := by
  constructor
  · intro word
    exact ⟨word.filled, by simpa using word.notBlank, word.notOpen, word.notClose,
      fun op _ => word.notKeyword op⟩
  · rintro ⟨filled, notBlank, notOpen, notClose, notKeyword⟩
    exact ⟨filled, by simpa using notBlank, notOpen, notClose, fun op => notKeyword op op.mem_all⟩

instance (anyCase : Bool) (text : Text) : Decidable (IsWord anyCase text) :=
  decidable_of_iff _ isWord_iff.symm

/-- A character is plain if it is neither blank nor a parenthesis. -/
theorem Segment.Plain.of_not_isBlank {c : Char} (notBlank : Text.isBlank c = false)
    (notOpen : c ≠ '(') (notClose : c ≠ ')') : Segment.Plain c where
  notSpace := by
    rintro rfl
    exact absurd notBlank (by decide)
  notOpen := notOpen
  notClose := notClose

namespace IsWord

variable {anyCase : Bool} {text : Text}

/-- The characters of words are plain. -/
theorem plain (word : IsWord anyCase text) : ∀ c ∈ text, Segment.Plain c := by
  intro c member
  apply Segment.Plain.of_not_isBlank (word.notBlank c member)
  · rintro rfl
    exact word.notOpen member
  · rintro rfl
    exact word.notClose member

/-- Trimming changes no word. -/
theorem trim_eq (word : IsWord anyCase text) : Text.trim text = text := by
  apply Text.trim_eq_self
  constructor
  · intro c first
    exact word.notBlank c (List.mem_of_head? first)
  · intro c last
    exact word.notBlank c (List.mem_of_getLast? last)

end IsWord

/-- The characters of keywords are plain. -/
theorem Operator.Spells.plain {anyCase : Bool} {op : Operator} {text : Text}
    (spells : op.Spells anyCase text) : ∀ c ∈ text, Segment.Plain c := by
  intro c member
  have letter := spells.isAlpha member
  apply Segment.Plain.of_not_isBlank (Text.not_isBlank_of_isAlpha letter)
  · rintro rfl
    simp at letter
  · rintro rfl
    simp at letter

/-- A token whose text, if it is a term, is a word. -/
def Token.Legible (anyCase : Bool) : Token → Prop
  | .term text => IsWord anyCase text
  | .operator _ | .openParen | .closeParen => True

/-- The ways in which a token may be written. -/
def Token.Spells (anyCase : Bool) : Token → Text → Prop
  | .operator op, text => op.Spells anyCase text
  | .openParen, text => text = ['(']
  | .closeParen, text => text = [')']
  | .term word, text => text = word

/-- A text that writes tokens one after another. There may be any number of spaces between
neighbours, and none only after an opening and before a closing parenthesis. -/
inductive Written (anyCase : Bool) : List Token → Text → Prop where
  | single {token text} (spells : token.Spells anyCase text) : Written anyCase [token] text
  | cons {token next tokens text body} (spells : token.Spells anyCase text) (spaces : Nat)
      (apart : token = .openParen ∨ next = .closeParen ∨ 0 < spaces)
      (later : Written anyCase (next :: tokens) body) :
      Written anyCase (token :: next :: tokens) (text ++ (List.replicate spaces ' ' ++ body))

/-- A query that writes tokens, with any blank characters before and after them. -/
def Writes (anyCase : Bool) (tokens : List Token) (query : Text) : Prop :=
  ∃ before body after, query = before ++ body ++ after ∧
    (∀ c ∈ before, Text.isBlank c = true) ∧ (∀ c ∈ after, Text.isBlank c = true) ∧
    Written anyCase tokens body

/-- A segment without parentheses is an operator or a term. -/
theorem Token.ofSegment_plain (anyCase : Bool) {text : Text}
    (plain : ∀ c ∈ text, Segment.Plain c) :
    Token.ofSegment anyCase text =
      match Operator.ofKeyword? anyCase text with
      | some op => .operator op
      | none => .term text := by
  have notOpen : text ≠ ['('] := by
    rintro rfl
    exact (plain '(' List.mem_cons_self).notOpen rfl
  have notClose : text ≠ [')'] := by
    rintro rfl
    exact (plain ')' List.mem_cons_self).notClose rfl
  exact (if_neg notOpen).trans (if_neg notClose)

namespace Token.Spells

variable {anyCase : Bool} {token : Token} {text rest : Text}

/-- No token is written as the empty text. -/
theorem filled (spells : token.Spells anyCase text)
    (legible : token.Legible anyCase) : text ≠ [] := by
  cases token with
  | operator op => exact Operator.Spells.filled spells
  | openParen | closeParen =>
      cases spells
      exact List.cons_ne_nil _ _
  | term written =>
      cases spells
      exact IsWord.filled legible

/-- No token is written with blank characters. -/
theorem notBlank (spells : token.Spells anyCase text)
    (legible : token.Legible anyCase) :
    ∀ c ∈ text, Text.isBlank c = false := by
  intro c member
  cases token with
  | operator op => exact Text.not_isBlank_of_isAlpha (Operator.Spells.isAlpha spells member)
  | openParen | closeParen =>
      cases spells
      rw [List.mem_singleton.mp member]
      decide
  | term written =>
      cases spells
      exact IsWord.notBlank legible c member

/-- A token is recognized in every way it may be written. -/
theorem ofSegment_eq (spells : token.Spells anyCase text)
    (legible : token.Legible anyCase) :
    Token.ofSegment anyCase text = token := by
  cases token with
  | operator op =>
      have keyword : Operator.ofKeyword? anyCase text = some op :=
        Operator.ofKeyword?_eq_some_iff.mpr spells
      rw [Token.ofSegment_plain anyCase (Operator.Spells.plain spells), keyword]
  | openParen | closeParen =>
      cases spells
      rfl
  | term written =>
      cases spells
      have noKeyword : Operator.ofKeyword? anyCase text = none := by
        rw [Option.eq_none_iff_forall_ne_some]
        intro op found
        exact IsWord.notKeyword legible op (Operator.ofKeyword?_eq_some_iff.mp found)
      rw [Token.ofSegment_plain anyCase (IsWord.plain legible), noKeyword]

/-- A written token is a segment of its own if it opens a group or the segment cannot go on. -/
theorem solid_append (spells : token.Spells anyCase text)
    (legible : token.Legible anyCase)
    (apart : token = .openParen ∨ Segment.Breaks rest) (offset : Nat) :
    Segment.solid offset (text ++ rest) =
      ⟨offset, text⟩ :: Segment.solid (offset + Text.byteLength text) rest := by
  cases token with
  | operator op =>
      have breaks := apart.resolve_left (by simp)
      exact Segment.solid_word (Operator.Spells.plain spells) (filled spells legible) breaks
  | openParen =>
      cases spells
      exact Segment.solid_open
  | closeParen =>
      cases spells
      exact Segment.solid_close (apart.resolve_left (by simp))
  | term written =>
      cases spells
      have breaks := apart.resolve_left (by simp)
      exact Segment.solid_word (IsWord.plain legible) (IsWord.filled legible) breaks

end Token.Spells

namespace Written

variable {anyCase : Bool} {tokens : List Token} {body : Text}

/-- Tokens are not written as the empty text together. -/
theorem filled (written : Written anyCase tokens body)
    (legible : ∀ token ∈ tokens, token.Legible anyCase) : body ≠ [] := by
  cases written with
  | single spells => exact spells.filled (legible _ List.mem_cons_self)
  | cons spells _ _ _ =>
      intro empty
      exact spells.filled (legible _ List.mem_cons_self) (List.append_eq_nil_iff.mp empty).1

/-- Neither end of a written list of tokens is blank. -/
theorem tight (written : Written anyCase tokens body)
    (legible : ∀ token ∈ tokens, token.Legible anyCase) : Text.Tight body := by
  induction written with
  | single spells =>
      have notBlank := spells.notBlank (legible _ List.mem_cons_self)
      constructor
      · intro c first
        exact notBlank c (List.mem_of_head? first)
      · intro c last
        exact notBlank c (List.mem_of_getLast? last)
  | @cons token next tokens text body spells spaces apart later inductionHypothesis =>
      obtain ⟨headLegible, tailLegible⟩ := List.forall_mem_cons.mp legible
      constructor
      · intro c first
        rw [List.head?_append_of_ne_nil _ (spells.filled headLegible)] at first
        exact spells.notBlank headLegible c (List.mem_of_head? first)
      · intro c last
        have bodyFilled := later.filled tailLegible
        rw [List.getLast?_append_of_ne_nil _ (by simp [bodyFilled]),
          List.getLast?_append_of_ne_nil _ bodyFilled] at last
        exact (inductionHypothesis tailLegible).stop c last

/-- Spaces and what starts with a closing parenthesis end a segment. -/
theorem breaks {next : Token} (written : Written anyCase (next :: tokens) body) {spaces : Nat}
    (apart : next = .closeParen ∨ 0 < spaces) :
    Segment.Breaks (List.replicate spaces ' ' ++ body) := by
  cases spaces with
  | succ spaces => exact .inl rfl
  | zero =>
      have closes := apart.resolve_right (by simp)
      subst closes
      cases written with
      | single spells =>
          cases spells
          exact .inr rfl
      | cons spells _ _ _ =>
          cases spells
          exact .inr rfl

/-- Every written token is a segment of its own. -/
theorem map_solid (written : Written anyCase tokens body)
    (legible : ∀ token ∈ tokens, token.Legible anyCase) (offset : Nat) :
    (Segment.solid offset body).map (fun segment => Token.ofSegment anyCase segment.text) =
      tokens := by
  induction written generalizing offset with
  | @single token text spells =>
      have ends : token = .openParen ∨ Segment.Breaks [] := .inr trivial
      have headLegible := legible _ List.mem_cons_self
      have segments := spells.solid_append headLegible ends offset
      rw [List.append_nil, Segment.solid_nil] at segments
      rw [segments, List.map_singleton, spells.ofSegment_eq headLegible]
  | @cons token next tokens text body spells spaces apart later inductionHypothesis =>
      obtain ⟨headLegible, tailLegible⟩ := List.forall_mem_cons.mp legible
      have segments := spells.solid_append headLegible (apart.imp id later.breaks) offset
      rw [segments, List.map_cons, spells.ofSegment_eq headLegible, Segment.solid_spaces,
        inductionHypothesis tailLegible]

end Written

/-- A query that writes tokens has some. -/
theorem Writes.filled {anyCase : Bool} {tokens : List Token} {query : Text}
    (writes : Writes anyCase tokens query) : tokens ≠ [] := by
  obtain ⟨_, _, _, _, _, _, written⟩ := writes
  cases written <;> exact List.cons_ne_nil _ _

/-- A written query is read as the tokens it writes. -/
theorem Writes.map_token {anyCase : Bool} {tokens : List Token} {query : Text}
    (writes : Writes anyCase tokens query)
    (legible : ∀ token ∈ tokens, token.Legible anyCase) :
    (Token.ofQuery anyCase query).map (·.token) = tokens := by
  obtain ⟨before, body, after, rfl, beforeBlank, afterBlank, written⟩ := writes
  have trimmed := Text.trim_append (written.tight legible) before after beforeBlank afterBlank
  rw [Token.ofQuery_eq, trimmed, List.map_map]
  exact written.map_solid legible _

end BoolQuery
