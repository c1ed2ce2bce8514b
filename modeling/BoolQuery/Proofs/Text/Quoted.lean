import BoolQuery.Text.Quoted
import BoolQuery.Proofs.Text.Split
import BoolQuery.Proofs.Toml.Escape

/-!
# Quoted texts are read back

A character within quotes stands as it is, behind a backslash by its letter, or by the hexadecimal
digits of its code point. The reader takes each form for the character (`decode_encodeChar_append`),
so `decode` undoes `encode` whatever the text holds, and quotes come off again (`unquote?_quote`).
All that is written can be shown (`isPrintable_of_mem_quote`): line feeds and control characters are
written by their escapes.
-/

namespace BoolQuery.Text

/-- A line feed is not printable, so it is escaped. -/
theorem not_isPrintable_lineFeed : isPrintable '\n' = false := by
  decide +kernel

/-- A hexadecimal number is written by its digits. -/
theorem exists_digit_of_mem_hexDigits {n : Nat} {c : Char} (member : c ∈ hexDigits n) :
    ∃ digit < 16, c = Nat.digitChar digit := by
  induction n using Nat.strongRecOn with
  | ind n inductionHypothesis =>
      unfold hexDigits at inductionHypothesis member
      by_cases small : n < 16
      · rw [Nat.toDigits_of_lt_base small] at member
        exact ⟨n, small, List.mem_singleton.mp member⟩
      · rw [Nat.toDigits_of_base_le (by decide) (by omega)] at member
        rcases List.mem_append.mp member with before | last
        · exact inductionHypothesis (n / 16) (by omega) before
        · exact ⟨n % 16, Nat.mod_lt _ (by decide), List.mem_singleton.mp last⟩

namespace Quoted

/-- The letter of a short escape means the character that it stands for. -/
theorem shortMeaning?_of_shortEscape? {c letter : Char} (short : shortEscape? c = some letter) :
    shortMeaning? letter = some c := by
  unfold shortEscape? at short
  split at short <;> cases short <;> rfl

/-- A quote and a backslash have short escapes. -/
theorem plain_of_shortEscape? {c : Char} (long : shortEscape? c = none) : c ≠ '\\' ∧ c ≠ '"' := by
  constructor
  all_goals
    rintro rfl
    cases long

/-- A hexadecimal digit adds to the value that is read. -/
theorem decode_digit (value : Nat) {digit : Nat} (small : digit < 16) (rest : Text) :
    decode (.digits value) (Nat.digitChar digit :: rest) =
      decode (.digits (16 * value + digit)) rest := by
  have noEnd : ∀ digit < 16, ¬(Nat.digitChar digit == '\x7d') = true := by decide
  rw [decode, if_neg (noEnd digit small), Toml.hexValue?_digitChar digit small]

/-- Behind the digits of a number the reader knows this number. -/
theorem decode_hexDigits (n : Nat) (rest : Text) :
    decode (.digits 0) (hexDigits n ++ rest) = decode (.digits n) rest := by
  induction n using Nat.strongRecOn generalizing rest with
  | ind n inductionHypothesis =>
      unfold hexDigits at inductionHypothesis ⊢
      by_cases small : n < 16
      · rw [Nat.toDigits_of_lt_base small, List.singleton_append, decode_digit 0 small,
          Nat.mul_zero, Nat.zero_add]
      · rw [Nat.toDigits_of_base_le (by decide) (by omega), List.append_assoc,
          inductionHypothesis (n / 16) (by omega), List.singleton_append,
          decode_digit _ (Nat.mod_lt _ (by decide)), Nat.div_add_mod]

/-- A backslash and a letter are decoded to what the letter means. -/
theorem decode_letter {c letter : Char} (means : shortMeaning? letter = some c) (rest : Text) :
    decode .outside ('\\' :: letter :: rest) = (decode .outside rest).map (c :: ·) := by
  simp [decode, means]

/-- A code point in digits is decoded to its character. -/
theorem decode_numeric (c : Char) (rest : Text) :
    decode .outside ('\\' :: 'u' :: '\x7b' :: (hexDigits c.toNat ++ '\x7d' :: rest)) =
      (decode .outside rest).map (c :: ·) := by
  have opened (text : Text) :
      decode .outside ('\\' :: 'u' :: '\x7b' :: text) = decode (.digits 0) text := rfl
  rw [opened, decode_hexDigits]
  simp [decode, Toml.codePoint?_toNat]

/-- Any other character stands for itself. -/
theorem decode_plain {c : Char} (noEscape : c ≠ '\\') (noQuote : c ≠ '"') (rest : Text) :
    decode .outside (c :: rest) = (decode .outside rest).map (c :: ·) := by
  simp [decode, noEscape, noQuote]

/-- The ways in which a character is written: by a letter, by its code point, or as it is. -/
theorem encodeChar_cases (c : Char) :
    (∃ letter, shortEscape? c = some letter ∧ encodeChar c = ['\\', letter]) ∨
    encodeChar c = ['\\', 'u', '\x7b'] ++ hexDigits c.toNat ++ ['\x7d'] ∨
    encodeChar c = [c] ∧ c ≠ '\\' ∧ c ≠ '"' ∧ isPrintable c = true := by
  unfold encodeChar
  cases short : shortEscape? c with
  | some letter => exact .inl ⟨letter, rfl, rfl⟩
  | none =>
      obtain ⟨noEscape, noQuote⟩ := plain_of_shortEscape? short
      dsimp only
      split
      · exact .inr (.inl rfl)
      · next shown =>
          have printable : isPrintable c = true := by
            simp only [Bool.or_eq_true, Bool.not_eq_true', not_or, Bool.not_eq_false] at shown
            exact shown.2
          exact .inr (.inr ⟨rfl, noEscape, noQuote, printable⟩)

/-- What is written for a character is read as this character. -/
theorem decode_encodeChar_append (c : Char) (rest : Text) :
    decode .outside (encodeChar c ++ rest) = (decode .outside rest).map (c :: ·) := by
  rcases encodeChar_cases c with ⟨letter, short, written⟩ | written | ⟨written, plain⟩
  · rw [written]
    exact decode_letter (shortMeaning?_of_shortEscape? short) rest
  · rw [written, List.append_assoc, List.append_assoc]
    exact decode_numeric c rest
  · rw [written]
    exact decode_plain plain.1 plain.2.1 rest

/-- Decoding gives back the text that was encoded. -/
theorem decode_encode (text : Text) : decode .outside (encode text) = some text := by
  induction text with
  | nil => rfl
  | cons c rest inductionHypothesis =>
      change decode .outside (encodeChar c ++ encode rest) = _
      rw [decode_encodeChar_append, inductionHypothesis]
      rfl

/-- The text that a text between quotes stands for. -/
def unquote? (quoted : Text) : Option Text :=
  (between? '"' '"' quoted).bind (decode .outside)

/-- Every text is read back from what is written for it between quotes. -/
theorem unquote?_quote (text : Text) : unquote? (quote text) = some text := by
  have within : between? '"' '"' (quote text) = some (encode text) :=
    between?_append '"' '"' (encode text)
  rw [unquote?, within, Option.bind_some, decode_encode]

/-- The letters of short escapes are printable. -/
theorem isPrintable_of_shortEscape? {c letter : Char} (short : shortEscape? c = some letter) :
    isPrintable letter = true := by
  unfold shortEscape? at short
  split at short <;> cases short <;> decide +kernel

/-- A character is written by characters that can be shown. -/
theorem isPrintable_of_mem_encodeChar {c d : Char} (member : d ∈ encodeChar c) :
    isPrintable d = true := by
  have signs : ∀ sign ∈ ['\\', 'u', '\x7b', '\x7d'], isPrintable sign = true :=
    List.all_eq_true.mp (by decide +kernel)
  have digits : ∀ digit < 16, isPrintable (Nat.digitChar digit) = true := by decide +kernel
  rcases encodeChar_cases c with ⟨letter, short, written⟩ | written | ⟨written, _, _, printable⟩
  · rw [written] at member
    rcases List.mem_cons.mp member with rfl | isLetter
    · exact signs '\\' (by simp)
    · rw [List.mem_singleton.mp isLetter]
      exact isPrintable_of_shortEscape? short
  · rw [written, List.mem_append, List.mem_append] at member
    rcases member with (opening | digit) | closing
    · exact signs d (List.mem_append_left ['\x7d'] opening)
    · obtain ⟨value, small, rfl⟩ := exists_digit_of_mem_hexDigits digit
      exact digits value small
    · rw [List.mem_singleton.mp closing]
      exact signs '\x7d' (by simp)
  · rw [written] at member
    rw [List.mem_singleton.mp member]
    exact printable

/-- A text between quotes holds no character that cannot be shown. -/
theorem isPrintable_of_mem_quote {text : Text} {c : Char} (member : c ∈ quote text) :
    isPrintable c = true := by
  have ends : isPrintable '"' = true := by decide +kernel
  rw [quote, List.mem_append, List.mem_cons] at member
  rcases member with (rfl | within) | closing
  · exact ends
  · obtain ⟨written, _, within⟩ := List.mem_flatMap.mp within
    exact isPrintable_of_mem_encodeChar within
  · rw [List.mem_singleton.mp closing]
    exact ends

end Quoted
end BoolQuery.Text
