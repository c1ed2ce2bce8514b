import BoolQuery.Toml.Escape

/-!
# Escapes are read back

`Spells` lists the ways in which the writer spells a character, and `escape_cons` says that a text
is written as the spellings of its characters, a quotation mark that needs no escape aside. The
reader takes each spelling for the character it stands for, so `unescape_escape` gives back every
text.
-/

namespace BoolQuery.Toml

/-- The characters that may stand in quotes as they are: tabs and everything that is no control
character. -/
theorem isPlain_iff {c : Char} :
    isPlain c = true ↔ c = '\t' ∨ 0x20 ≤ c.toNat ∧ c.toNat ≠ 0x7F := by
  simp [isPlain]

/-- How a character is spelled in a quoted text, unless it is a quotation mark that stands as it
is. -/
inductive Spells (spansLines : Bool) : Char → Text → Prop where
  /-- As it is. -/
  | plain {c} (readable : isPlain c = true ∨ spansLines = true ∧ c = '\n')
      (noQuote : c ≠ '"') (noEscape : c ≠ '\\') : Spells spansLines c [c]
  /-- By the letter that stands for it. -/
  | letter {c sign} (means : simpleEscape? sign = some c) : Spells spansLines c ['\\', sign]
  /-- By the two hexadecimal digits of its code point. -/
  | digits {c high low} (highDigit : Text.hexValue? high = some (c.toNat / 16))
      (lowDigit : Text.hexValue? low = some (c.toNat % 16)) :
      Spells spansLines c ['\\', 'u', '0', '0', high, low]

/-- Small hexadecimal digits have their value. -/
theorem hexValue?_digitChar : ∀ digit < 16, Text.hexValue? (Nat.digitChar digit) = some digit := by
  decide

/-- Capital hexadecimal digits have their value. -/
theorem hexValue?_toUpper_digitChar :
    ∀ digit < 16, Text.hexValue? (Nat.digitChar digit).toUpper = some digit := by
  decide

/-- The code point of a character stands for this character. -/
theorem codePoint?_toNat (c : Char) : Text.codePoint? c.toNat = some c := by
  have valid : c.toNat.isValidChar := c.valid
  rw [Text.codePoint?, if_pos valid, Char.ofNat_toNat]

/-- A character that is always escaped is spelled by its escape. -/
theorem spells_of_escapeOf? {c : Char} {escaped : Text} (found : escapeOf? c = some escaped)
    (spansLines : Bool) : Spells spansLines c escaped := by
  unfold escapeOf? at found
  split at found
  case h_6 =>
    split at found
    · next control =>
        have small : c.toNat / 16 < 16 := by
          simp only [Bool.and_eq_true, Bool.not_eq_true', Bool.eq_false_iff, ne_eq,
            isPlain_iff] at control
          omega
        cases found
        exact .digits (hexValue?_toUpper_digitChar _ small)
          (hexValue?_toUpper_digitChar _ (Nat.mod_lt _ (by decide)))
    · cases found
  all_goals
    cases found
    exact .letter rfl

/-- A character that is not always escaped is readable as it is, line feeds where they may stand. -/
theorem readable_of_escapeOf?_eq_none {c : Char} (none : escapeOf? c = none) :
    (isPlain c = true ∨ c = '\n') ∧ c ≠ '\\' := by
  unfold escapeOf? at none
  split at none
  case h_6 _ _ _ _ _ noEscape =>
    split at none
    · cases none
    · next readable =>
        refine ⟨?_, noEscape⟩
        simp only [Bool.and_eq_true, bne_iff_ne, ne_eq, Bool.not_eq_true', not_and,
          Bool.not_eq_false] at readable
        by_cases lineFeed : c = '\n'
        · exact .inr lineFeed
        · exact .inl (readable lineFeed)
  all_goals cases none

variable {spansLines : Bool}

/-- The first character of a text is spelled out, unless it is one of the first two quotation marks
in a row over several lines. -/
theorem escape_cons (spansLines : Bool) (run : Nat) (c : Char) (rest : Text) :
    (c = '"' ∧ spansLines = true ∧ run ≠ 2 ∧
      escape spansLines run (c :: rest) = c :: escape spansLines (run + 1) rest) ∨
    ∃ spelling, Spells spansLines c spelling ∧
      escape spansLines run (c :: rest) = spelling ++ escape spansLines 0 rest := by
  by_cases quote : c = '"'
  · subst quote
    by_cases bare : spansLines = true ∧ run ≠ 2
    · exact .inl ⟨rfl, bare.1, bare.2, by simp [escape, bare]⟩
    · refine .inr ⟨['\\', '"'], .letter rfl, ?_⟩
      have escapes : (!spansLines || run == 2) = true := by
        cases spansLines <;> simp_all
      simp [escape, escapes]
  · refine .inr ?_
    by_cases broken : c = '\n' ∧ spansLines = false
    · exact ⟨['\\', 'n'], broken.1 ▸ .letter rfl, by simp [escape, broken]⟩
    · have unbroken : (c == '\n' && !spansLines) = false := by
        cases spansLines <;> simp_all
      cases found : escapeOf? c with
      | some escaped =>
          exact ⟨escaped, spells_of_escapeOf? found spansLines,
            by simp [escape, quote, unbroken, found]⟩
      | none =>
          obtain ⟨readable, noEscape⟩ := readable_of_escapeOf?_eq_none found
          have inPlace : isPlain c = true ∨ spansLines = true ∧ c = '\n' := by
            refine readable.imp id fun lineFeed => ⟨?_, lineFeed⟩
            simpa [lineFeed] using broken
          exact ⟨[c], .plain inPlace quote noEscape, by simp [escape, quote, unbroken, found]⟩

/-- A plain character is read as it is. -/
theorem unescape_plain {c : Char} (readable : isPlain c = true ∨ spansLines = true ∧ c = '\n')
    (noEscape : c ≠ '\\') (rest : Text) :
    unescape spansLines .outside (c :: rest) =
      (unescape spansLines .outside rest).map (c :: ·) := by
  have accepted : (isPlain c ||
      (spansLines && (c == '\n' || (c == '\r' && rest.head? == some '\n')))) = true := by
    rcases readable with plain | ⟨lines, rfl⟩
    · simp [plain]
    · simp [lines]
  rw [unescape, if_neg (by simpa using noEscape), if_pos accepted]

/-- A spelling is read as the character it stands for. -/
theorem Spells.unescape_append {c : Char} {spelling : Text} (spells : Spells spansLines c spelling)
    (rest : Text) :
    unescape spansLines .outside (spelling ++ rest) =
      (unescape spansLines .outside rest).map (c :: ·) := by
  cases spells with
  | plain readable _ noEscape => exact unescape_plain readable noEscape rest
  | letter means => simp [unescape, means]
  | digits highDigit lowDigit =>
      have zero : Text.hexValue? '0' = some 0 := by decide
      have value : 16 * (c.toNat / 16) + c.toNat % 16 = c.toNat := Nat.div_add_mod _ _
      simp [unescape, simpleEscape?, hexLength?, zero, highDigit, lowDigit, value, codePoint?_toNat]

/-- Every text is read back from its escaped form. -/
theorem unescape_escape (spansLines : Bool) (run : Nat) (text : Text) :
    unescape spansLines .outside (escape spansLines run text) = some text := by
  induction text generalizing run with
  | nil => simp [escape, unescape]
  | cons c rest inductionHypothesis =>
      rcases escape_cons spansLines run c rest with
        ⟨rfl, _, _, bare⟩ | ⟨spelling, spells, spelled⟩
      · rw [bare, unescape_plain (.inl (by decide)) (by decide), inductionHypothesis]
        rfl
      · rw [spelled, spells.unescape_append, inductionHypothesis]
        rfl

end BoolQuery.Toml
