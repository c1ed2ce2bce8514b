import BoolQuery.Proofs.Toml.Escape
import BoolQuery.Toml.Quoted

/-!
# Quotations are read back

The body of a quotation must not hold the closing mark. `Form.Contained` says so of the text between
the marks: quotes stand in it only behind a backslash, or, over several lines, at most two in a row.
Both readers stop at the closing mark behind such a text. `Form.Shows` says which texts a form can
show, and `read?_write` that every text is read back from the form that is chosen for it.
-/

namespace BoolQuery.Toml.Quoted

namespace Form

/-- The number of quotes that may stand in a row between the marks. -/
def quoteLimit (form : Form) : Nat :=
  if form.spansLines then 2 else 0

/-- A text in which nothing closes the quotation when `run` quotes stand directly before it. -/
inductive Contained (form : Form) : (run : Nat) → Text → Prop where
  | nil {run} : Contained form run []
  | quote {run rest} (short : run < form.quoteLimit) (later : Contained form (run + 1) rest) :
      Contained form run (form.quote :: rest)
  | plain {run c rest} (noQuote : c ≠ form.quote)
      (noEscape : form.hasEscapes = true → c ≠ '\\') (later : Contained form 0 rest) :
      Contained form run (c :: rest)
  | escaped {run c rest} (escapes : form.hasEscapes = true) (later : Contained form 0 rest) :
      Contained form run ('\\' :: c :: rest)

/-- The texts that a form can show. -/
def Shows : Form → Text → Prop
  | .basic, _ | .basicLines, _ => True
  | .literal, text => (∀ c ∈ text, isPlain c = true) ∧ '\x27' ∉ text
  | .literalLines, text =>
    (∀ c ∈ text, isPlain c = true ∨ c = '\n') ∧ longestRun '\x27' 0 text ≤ 2

/-- What a form writes between the marks for a text, the line feed at the start aside. -/
def content (form : Form) (text : Text) : Text :=
  if form.hasEscapes then escape form.spansLines 0 text else text

variable {form : Form} {text rest : Text} {run : Nat}

/-- No form uses the backslash as its quote. -/
theorem quote_ne_backslash (form : Form) : '\\' ≠ form.quote := by
  cases form <;> decide

/-- Only the forms in quotation marks have escapes. -/
theorem quote_of_hasEscapes (escapes : form.hasEscapes = true) : form.quote = '"' := by
  cases form with
  | basic | basicLines => rfl
  | literal | literalLines => cases escapes

/-! ## Bodies do not hold the closing mark -/

/-- A hexadecimal digit is neither a quotation mark nor a backslash. -/
theorem ne_of_hexValue? {c : Char} {digit : Nat} (value : Text.hexValue? c = some digit) :
    c ≠ '"' ∧ c ≠ '\\' := by
  have quote : Text.hexValue? '"' = none := by decide
  have backslash : Text.hexValue? '\\' = none := by decide
  constructor
  · rintro rfl
    rw [quote] at value
    cases value
  · rintro rfl
    rw [backslash] at value
    cases value

/-- The spelling of a character closes nothing. -/
theorem Contained.append_spelling {c : Char} {spelling : Text} (escapes : form.hasEscapes = true)
    (spells : Spells form.spansLines c spelling) (later : form.Contained 0 rest) :
    form.Contained run (spelling ++ rest) := by
  have quote := quote_of_hasEscapes escapes
  have plain : ∀ {c : Char} {rest : Text} {run : Nat}, c ≠ '"' → c ≠ '\\' →
      form.Contained 0 rest → form.Contained run (c :: rest) :=
    fun noQuote noEscape later => .plain (by rwa [quote]) (fun _ => noEscape) later
  cases spells with
  | plain _ noQuote noEscape => exact plain noQuote noEscape later
  | letter _ => exact .escaped escapes later
  | digits highDigit lowDigit =>
      obtain ⟨highNoQuote, highNoEscape⟩ := ne_of_hexValue? highDigit
      obtain ⟨lowNoQuote, lowNoEscape⟩ := ne_of_hexValue? lowDigit
      have digits : form.Contained 0 _ :=
        plain highNoQuote highNoEscape (plain lowNoQuote lowNoEscape later)
      exact .escaped escapes (plain (by decide) (by decide) (plain (by decide) (by decide) digits))

/-- An escaped text does not hold the closing mark. -/
theorem contained_escape (escapes : form.hasEscapes = true) (text : Text)
    (bounded : run ≤ form.quoteLimit) :
    form.Contained run (escape form.spansLines run text) := by
  induction text generalizing run with
  | nil => exact .nil
  | cons c text inductionHypothesis =>
      rcases escape_cons form.spansLines run c text with
        ⟨rfl, lines, short, bare⟩ | ⟨spelling, spells, spelled⟩
      · have limit : form.quoteLimit = 2 := by simp [quoteLimit, lines]
        have below : run < form.quoteLimit := by omega
        rw [bare, ← quote_of_hasEscapes escapes]
        exact .quote below (inductionHypothesis below)
      · rw [spelled]
        exact .append_spelling escapes spells (inductionHypothesis (Nat.zero_le _))

/-- The longest run is at least as long as the one that is under way. -/
theorem le_longestRun (mark : Char) (run : Nat) (text : Text) : run ≤ longestRun mark run text := by
  induction text generalizing run with
  | nil => exact Nat.le_refl run
  | cons c text inductionHypothesis =>
      rw [longestRun]
      split
      · exact Nat.le_of_succ_le (inductionHypothesis (run + 1))
      · exact Nat.le_max_left _ _

/-- A text that is shown as it is does not hold the closing mark if its runs of quotes are short. -/
theorem contained_of_longestRun_le (verbatim : form.hasEscapes = false)
    (short : longestRun form.quote run text ≤ form.quoteLimit) : form.Contained run text := by
  induction text generalizing run with
  | nil => exact .nil
  | cons c text inductionHypothesis =>
      rw [longestRun] at short
      split at short
      · next quote =>
          have longer := le_longestRun form.quote (run + 1) text
          rw [beq_iff_eq] at quote
          rw [quote]
          exact .quote (by omega) (inductionHypothesis short)
      · next noQuote =>
          have later : longestRun form.quote 0 text ≤ form.quoteLimit := by omega
          exact .plain (by simpa using noQuote) (by simp [verbatim]) (inductionHypothesis later)

/-- Without the mark in a text, the run under way is the longest one. -/
theorem longestRun_of_not_mem {mark : Char} (absent : mark ∉ text) :
    longestRun mark run text = run := by
  induction text generalizing run with
  | nil => rfl
  | cons c text inductionHypothesis =>
      have different : c ≠ mark := Ne.symm (List.ne_of_not_mem_cons absent)
      have later := List.not_mem_of_not_mem_cons absent
      simp [longestRun, different, inductionHypothesis later]

/-- What a form writes for a text that it can show does not close the quotation. -/
theorem contained_content (shows : form.Shows text) : form.Contained 0 (form.content text) := by
  cases form with
  | basic | basicLines => exact contained_escape rfl text (Nat.zero_le _)
  | literal =>
      apply contained_of_longestRun_le rfl
      exact Nat.le_of_eq (longestRun_of_not_mem shows.2)
  | literalLines => exact contained_of_longestRun_le rfl shows.2

end Form

/-! ## Readers stop at the closing mark -/

variable {form : Form} {text body rest : Text} {run : Nat}

/-- A character that may stand in a body starts no escape. -/
theorem starts_no_escape {c : Char} (noEscape : form.hasEscapes = true → c ≠ '\\') :
    (form.hasEscapes && c == '\\') = false := by
  cases escapes : form.hasEscapes with
  | false => rfl
  | true => simpa using noEscape escapes

/-- A form on one line is split at the quote that closes it. -/
theorem splitAtQuote_contained (single : form.spansLines = false)
    (contained : form.Contained run body) (rest : Text) :
    splitAtQuote form false (body ++ form.quote :: rest) = some (body, rest) := by
  induction contained with
  | nil => simp [splitAtQuote]
  | quote short _ _ => simp [Form.quoteLimit, single] at short
  | plain noQuote noEscape _ inductionHypothesis =>
      simp [splitAtQuote, noQuote, starts_no_escape noEscape, inductionHypothesis]
  | escaped escapes _ inductionHypothesis =>
      simp [splitAtQuote, form.quote_ne_backslash, escapes, inductionHypothesis]

/-- Behind at most two quotes in a row, three quotes close the quotation unless more follow. -/
theorem splitAtTriple_mark (bounded : run ≤ 2) (ends : rest.head? ≠ some form.quote) :
    splitAtTriple form false run (List.replicate 3 form.quote ++ rest) =
      some (List.replicate run form.quote, rest) := by
  have noQuote : ∀ {c later}, rest = c :: later → c ≠ form.quote := by
    rintro c later rfl
    simpa using ends
  -- With two quotes before it the mark ends at the fifth quote; otherwise what follows ends it.
  rcases run with _ | _ | _ | run
  · cases rest with
    | nil => simp [splitAtTriple, List.replicate]
    | cons c later => simp [splitAtTriple, List.replicate, noQuote rfl]
  · cases rest with
    | nil => simp [splitAtTriple, List.replicate]
    | cons c later => simp [splitAtTriple, List.replicate, noQuote rfl]
  · simp [splitAtTriple, List.replicate]
  · omega

/-- A form on several lines is split at the three quotes that close it. -/
theorem splitAtTriple_contained (triple : form.spansLines = true) {closing : Text}
    (closes : ∀ run ≤ 2,
      splitAtTriple form false run closing = some (List.replicate run form.quote, rest))
    (contained : form.Contained run body) (bounded : run ≤ 2) :
    splitAtTriple form false run (body ++ closing) =
      some (List.replicate run form.quote ++ body, rest) := by
  induction contained with
  | nil =>
      rw [List.nil_append, List.append_nil]
      exact closes _ bounded
  | @quote run body short _ inductionHypothesis =>
      have below : run < 2 := by simpa [Form.quoteLimit, triple] using short
      have notLast : run ≠ 4 := by omega
      simp [splitAtTriple, notLast, inductionHypothesis below, List.replicate_succ']
  | @plain run c body noQuote noEscape _ inductionHypothesis =>
      have short : ¬ 3 ≤ run := by omega
      simp [splitAtTriple, noQuote, short, starts_no_escape noEscape, inductionHypothesis]
  | @escaped run c body escapes _ inductionHypothesis =>
      have short : ¬ 3 ≤ run := by omega
      simp [splitAtTriple, form.quote_ne_backslash, short, escapes, inductionHypothesis]

/-! ## Every form is read back -/

/-- Nothing is dropped from a text that does not start with a line break. -/
theorem dropLineBreak_eq_self (noFeed : text.head? ≠ some '\n')
    (noReturn : text.head? ≠ some '\r') : dropLineBreak text = text := by
  unfold dropLineBreak
  split
  · simp at noFeed
  · simp at noReturn
  · rfl

/-- A text of readable characters may stand in quotes as it is. -/
theorem isVerbatim_of_forall {spansLines : Bool}
    (readable : ∀ c ∈ text, isPlain c = true ∨ spansLines = true ∧ c = '\n') :
    isVerbatim spansLines text = true := by
  induction text with
  | nil => rfl
  | cons c text inductionHypothesis =>
      obtain ⟨headReadable, tailReadable⟩ := List.forall_mem_cons.mp readable
      rw [isVerbatim, inductionHypothesis tailReadable, Bool.and_true]
      rcases headReadable with plain | ⟨lines, rfl⟩
      · simp [plain]
      · simp [lines]

namespace Form

/-- The line feed that a form writes behind the opening mark. -/
def opening (form : Form) (text : Text) : Text :=
  if form.spansLines && text.contains '\n' then ['\n'] else []

/-- What stands behind a written text stands behind its closing mark. -/
theorem write_append (form : Form) (text rest : Text) :
    form.write text ++ rest =
      form.mark ++ (form.opening text ++ form.content text ++ (form.mark ++ rest)) := by
  simp [write, opening, content]

/-- What stands first between the marks is a plain character or a line feed of the text. -/
theorem readable_of_head?_content (shows : form.Shows text) {c : Char}
    (first : (form.content text).head? = some c) :
    isPlain c = true ∨ c = '\n' ∧ '\n' ∈ text := by
  have backslash : isPlain '\\' = true := by decide
  have escaped : ∀ {spansLines : Bool}, (escape spansLines 0 text).head? = some c →
      isPlain c = true ∨ c = '\n' ∧ '\n' ∈ text := by
    intro spansLines first
    cases text with
    | nil => simp [escape] at first
    | cons d text =>
        rcases escape_cons spansLines 0 d text with ⟨rfl, _, _, bare⟩ | ⟨spelling, spells, spelled⟩
        · rw [bare] at first
          cases first
          exact .inl (by decide)
        · rw [spelled] at first
          cases spells with
          | plain readable _ _ =>
              cases first
              exact readable.imp id fun feed => ⟨feed.2, by simp [feed.2]⟩
          | letter _ | digits _ _ =>
              cases first
              exact .inl backslash
  cases form with
  | basic | basicLines => exact escaped first
  | literal => exact .inl (shows.1 c (List.mem_of_head? first))
  | literalLines =>
      have member : c ∈ text := List.mem_of_head? first
      exact (shows.1 c member).imp id fun feed => ⟨feed, feed ▸ member⟩

/-- The reader drops the line feed that the writer put behind the opening mark, and no other. -/
theorem dropLineBreak_opening (lines : form.spansLines = true) (shows : form.Shows text) :
    dropLineBreak (form.opening text ++ form.content text) = form.content text := by
  by_cases feed : '\n' ∈ text
  · simp [opening, lines, feed, dropLineBreak]
  · have noOpening : form.opening text = [] := by simp [opening, feed]
    rw [noOpening, List.nil_append]
    apply dropLineBreak_eq_self
    · intro first
      rcases readable_of_head?_content shows first with plain | ⟨_, member⟩
      · exact absurd plain (by decide)
      · exact feed member
    · intro first
      rcases readable_of_head?_content shows first with plain | ⟨same, _⟩
      · exact absurd plain (by decide)
      · exact absurd same (by decide)

/-- The line feed behind the opening mark does not close the quotation either. -/
theorem contained_opening (shows : form.Shows text) :
    form.Contained 0 (form.opening text ++ form.content text) := by
  have content := contained_content shows
  rw [opening]
  split
  · have noQuote : '\n' ≠ form.quote := by cases form <;> decide
    exact .plain noQuote (fun _ => by decide) content
  · exact content

end Form

/-- Split an input at the closing mark of a form. -/
def splitAtMark (form : Form) (input : Text) : Option (Text × Text) :=
  if form.spansLines then splitAtTriple form false 0 input else splitAtQuote form false input

/-- The text that stands for a body in a form. -/
def meaning? (form : Form) (body : Text) : Option Text :=
  let body := if form.spansLines then dropLineBreak body else body
  if form.hasEscapes then unescape form.spansLines .outside body
  else if isVerbatim form.spansLines body then some body
  else none

/-- Reading behind an opening mark is splitting at the closing one and finding what the body means.
-/
theorem readBody?_eq (form : Form) (input : Text) :
    readBody? form input = (splitAtMark form input).bind fun (body, after) =>
      (meaning? form body).map fun text => (text, after) := by
  have read : ∀ parts : Option (Text × Text), (parts.bind fun (body, after) =>
        let body := if form.spansLines then dropLineBreak body else body
        if form.hasEscapes then
          (unescape form.spansLines .outside body).bind fun text => some (text, after)
        else if isVerbatim form.spansLines body then some (body, after)
        else none) =
      parts.bind fun (body, after) => (meaning? form body).map fun text => (text, after) := by
    rintro (_ | ⟨body, after⟩)
    · rfl
    · simp only [Option.bind_some, meaning?]
      generalize (if form.spansLines = true then dropLineBreak body else body) = body
      cases form.hasEscapes with
      | true => cases unescape form.spansLines .outside body <;> rfl
      | false => cases isVerbatim form.spansLines body <;> rfl
  rw [← read, readBody?, splitAtMark]
  cases form.spansLines <;> rfl

namespace Form

/-- The body of a written quotation is read as the text. -/
theorem readBody?_write (shows : form.Shows text) (ends : rest.head? ≠ some form.quote) :
    readBody? form (form.opening text ++ form.content text ++ (form.mark ++ rest)) =
      some (text, rest) := by
  have contained := contained_opening shows
  have split : splitAtMark form
      (form.opening text ++ form.content text ++ (form.mark ++ rest)) =
        some (form.opening text ++ form.content text, rest) := by
    rw [splitAtMark]
    cases lines : form.spansLines with
    | false =>
        have mark : form.mark ++ rest = form.quote :: rest := by simp [Form.mark, lines]
        rw [mark]
        exact splitAtQuote_contained lines contained rest
    | true =>
        have mark : form.mark = List.replicate 3 form.quote := by simp [Form.mark, lines]
        rw [mark]
        exact splitAtTriple_contained lines (fun _ bounded => splitAtTriple_mark bounded ends)
          contained (Nat.zero_le 2)
  have body : (if form.spansLines then dropLineBreak (form.opening text ++ form.content text)
      else form.opening text ++ form.content text) = form.content text := by
    cases lines : form.spansLines with
    | false => simp [opening, lines]
    | true => exact dropLineBreak_opening lines shows
  have meant : meaning? form (form.opening text ++ form.content text) = some text := by
    simp only [meaning?, body]
    cases form with
    | basic | basicLines => exact unescape_escape _ 0 text
    | literal => exact if_pos (isVerbatim_of_forall fun c member => .inl (shows.1 c member))
    | literalLines =>
        exact if_pos (isVerbatim_of_forall fun c member =>
          (shows.1 c member).imp id fun feed => ⟨rfl, feed⟩)
  simp only [readBody?_eq, split, Option.bind_some, meant, Option.map_some]

/-- A single mark is recognized unless two more quotes follow it. -/
theorem ofInput?_single (single : form.spansLines = false) {input : Text}
    (noTriple : ∀ later, input ≠ form.quote :: form.quote :: later) :
    ofInput? (form.quote :: input) = some (form, input) := by
  cases form with
  | basic | literal =>
      simp only [quote] at noTriple ⊢
      rw [ofInput?]
      exact noTriple
  | basicLines | literalLines => cases single

/-- The form of a written quotation is recognized. -/
theorem ofInput?_write (shows : form.Shows text) (ends : rest.head? ≠ some form.quote) :
    ofInput? (form.write text ++ rest) =
      some (form, form.opening text ++ form.content text ++ (form.mark ++ rest)) := by
  rw [write_append]
  cases lines : form.spansLines with
  | true => cases form <;> first | rfl | cases lines
  | false =>
      have mark : ∀ input, form.mark ++ input = form.quote :: input := by
        simp [Form.mark, lines]
      rw [mark, mark]
      apply ofInput?_single lines
      -- No quote follows the opening mark, or only the closing one of an empty text.
      intro later same
      have contained := contained_opening shows
      generalize form.opening text ++ form.content text = body at contained same
      cases contained with
      | nil =>
          apply ends
          rw [(List.cons.inj same).2]
          rfl
      | quote short _ => simp [quoteLimit, lines] at short
      | plain noQuote _ _ => exact noQuote (List.cons.inj same).1
      | escaped _ _ => exact form.quote_ne_backslash (List.cons.inj same).1

/-- The chosen form can show the text. -/
theorem shows_choose (text : Text) : (choose text).Shows text := by
  unfold choose
  simp only
  split
  · trivial
  split
  · next literal =>
      simp only [Bool.and_eq_true, List.all_eq_true, Bool.or_eq_true, beq_iff_eq,
        Bool.not_eq_true', List.contains_eq_mem, decide_eq_false_iff_not] at literal
      obtain ⟨⟨readable, noQuote⟩, noFeed⟩ := literal
      refine ⟨fun c member => (readable c member).resolve_right ?_, noQuote⟩
      rintro rfl
      exact noFeed member
  split
  · trivial
  split
  · next literal =>
      simp only [Bool.and_eq_true, List.all_eq_true, Bool.or_eq_true, beq_iff_eq,
        decide_eq_true_eq] at literal
      exact literal
  split <;> trivial

end Form

/-- Every text is read back from its quotation, up to where another quote follows. -/
theorem read?_write (text : Text) {rest : Text} (noQuotation : rest.head? ≠ some '"')
    (noApostrophe : rest.head? ≠ some '\x27') : read? (write text ++ rest) = some (text, rest) := by
  have shows := Form.shows_choose text
  have ends : rest.head? ≠ some (Form.choose text).quote := by
    cases Form.choose text <;> assumption
  rw [read?, write, Form.ofInput?_write shows ends]
  exact Form.readBody?_write shows ends

example : read? "\"\"\"it's \"\"\"\"\"\n".toList = some ("it's \"\"".toList, ['\n']) := by decide

end BoolQuery.Toml.Quoted
