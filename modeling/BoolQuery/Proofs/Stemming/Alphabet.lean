import BoolQuery.Stemming.Choice

/-!
# The letters that rules write

Rules move within a word and replace parts of it by texts that are fixed in advance. `Gains` says
that rewriting a word has brought in no other characters than certain letters, and an alphabet of a
rule is a list of letters that it gets by with, whatever the word. Every combinator has an instance
that joins the alphabets of its parts, so the alphabet of a stemmer is computed from its definition.
-/

namespace BoolQuery.Stemming

namespace Scan

variable {scan earlier later last : Scan} {letters more text : Text} {c : Char}

@[simp] theorem track_placeAt (scan : Scan) (track : Text) (position : Nat) :
    (scan.placeAt track position).track = track := by
  simp [placeAt, Scan.track]

/-- Moving to another position rewrites nothing. -/
@[simp] theorem track_seek (scan : Scan) (position : Nat) :
    (scan.seek position).track = scan.track :=
  track_placeAt scan scan.track position

/-- Moving ahead rewrites nothing. -/
@[simp] theorem track_advance (scan : Scan) (count : Nat) :
    (scan.advance count).track = scan.track :=
  track_seek scan _

/-- Passing a text rewrites nothing. -/
theorem track_of_pass? (passed : scan.pass? text = some later) : later.track = scan.track := by
  rw [pass?] at passed
  split at passed
  · rw [← Option.some.inj passed, track_advance]
  · cases passed

/-- The direction of a scan does not matter for which characters a text has. -/
theorem mem_orient : c ∈ scan.orient text ↔ c ∈ text := by
  rw [orient]
  split
  · exact List.mem_reverse
  · exact Iff.rfl

/-- A word and its track have the same characters, since one may be the other reversed. -/
theorem mem_word : c ∈ scan.word ↔ c ∈ scan.track :=
  mem_orient

/-- Every character of a rewritten word was there before or is one of some letters. -/
def Gains (letters : Text) (earlier later : Scan) : Prop :=
  ∀ c ∈ later.track, c ∈ earlier.track ∨ c ∈ letters

namespace Gains

/-- What is not rewritten gains no letters. -/
theorem of_track_eq (same : later.track = earlier.track) : Gains letters earlier later :=
  fun _ member => .inl (same ▸ member)

/-- A scan gains nothing over itself. -/
theorem refl (scan : Scan) : Gains letters scan scan :=
  of_track_eq rfl

/-- What is gained in two steps is gained in one of them. -/
theorem trans (first : Gains letters earlier later) (second : Gains letters later last) :
    Gains letters earlier last :=
  fun c member => (second c member).elim (first c) .inr

/-- The letters may be more than those that are needed. -/
theorem mono (gains : Gains letters earlier later) (among : letters ⊆ more) :
    Gains more earlier later :=
  fun c member => (gains c member).imp_right fun letter => among letter

/-- The letters of one part do for a whole, whatever the letters behind them. -/
theorem orLeft (gains : Gains letters earlier later) : Gains (letters ++ more) earlier later :=
  gains.mono (List.subset_append_left _ _)

/-- The letters of one part do for a whole, whatever the letters in front of them. -/
theorem orRight (gains : Gains letters earlier later) : Gains (more ++ letters) earlier later :=
  gains.mono (List.subset_append_right _ _)

/-- Going elsewhere in a word does not rewrite it. -/
theorem seek (gains : Gains letters earlier later) (position : Nat) :
    Gains letters earlier (later.seek position) :=
  gains.trans (of_track_eq (track_seek later position))

/-- Replacing a slice brings in the letters of the new text only. -/
theorem replaceSlice (scan : Scan) (text : Text) : Gains text scan (scan.replaceSlice text) := by
  intro c member
  rw [Scan.replaceSlice, track_placeAt] at member
  rcases List.mem_append.mp member with front | back
  · rcases List.mem_append.mp front with kept | written
    · exact .inl (List.mem_of_mem_take kept)
    · exact .inr (mem_orient.mp written)
  · exact .inl (List.mem_of_mem_drop back)

/-- Inserting a text brings in its letters only. -/
theorem insert (scan : Scan) (text : Text) : Gains text scan (scan.insert text) := by
  intro c member
  simp only [Scan.insert, track, List.reverse_append, List.reverse_reverse, List.mem_append,
    mem_orient] at member ⊢
  exact or_right_comm.mp member

/-- Turning to read from the end brings in nothing. -/
theorem fromEnd (scan : Scan) : Gains letters scan scan.fromEnd :=
  fun _ member => .inl (mem_word.mp (List.mem_reverse.mp member))

/-- Turning to read from the start brings in nothing. -/
theorem fromStart (scan : Scan) : Gains letters scan scan.fromStart :=
  fun _ member => .inl (mem_word.mp member)

end Gains
end Scan

/-- The letters that a rule may write, whatever the word. -/
class Alphabet (rule : Rule) where
  letters : Text
  gains : ∀ scan, Scan.Gains letters scan (rule.run scan).2

/-- The letters that the actions of choices may write. -/
class ChoiceAlphabet (choices : List Choice) where
  letters : Text
  gains : ∀ choice ∈ choices, ∀ scan, Scan.Gains letters scan (choice.action.run scan).2

namespace Choice

/-- Passing the text of a choice rewrites nothing. -/
theorem track_of_pass? {choice : Choice} {scan later : Scan}
    (passed : choice.pass? scan = some later) : later.track = scan.track := by
  rw [pass?] at passed
  split at passed
  · cases passed
  · next text =>
      split at passed
      · rw [← Option.some.inj passed, Scan.track_of_pass? text]
      · cases passed

/-- The longest choice is one of the choices, and passing it does not rewrite the word. -/
theorem mem_of_longest {choices : List Choice} {scan : Scan} :
    ∀ found ∈ longest choices scan, found.1 ∈ choices ∧ found.2.track = scan.track := by
  rw [longest]
  refine List.foldlRecOn (motive := fun best : Option (Choice × Scan) =>
    ∀ found ∈ best, found.1 ∈ choices ∧ found.2.track = scan.track)
    choices _ (by simp) fun best sound choice member => ?_
  have taken : ∀ {later}, choice.pass? scan = some later →
      ∀ found ∈ some (choice, later), found.1 ∈ choices ∧ found.2.track = scan.track := by
    rintro later passes _ ⟨⟩
    exact ⟨member, track_of_pass? passes⟩
  split
  · exact sound
  · next passes => exact taken passes
  · next passes =>
      split
      · exact taken passes
      · exact sound

end Choice

namespace Alphabet

open Rule Scan

variable {rule outer : Rule}

/-- Running a rule brings in letters of its alphabet only. -/
theorem gains_run (rule : Rule) [Alphabet rule] (scan : Scan) :
    Gains (Alphabet.letters rule) scan (rule.run scan).2 :=
  gains scan

/-- A rule that leaves the word alone writes nothing. -/
@[reducible] def ofStill (still : ∀ scan, (rule.run scan).2.track = scan.track) : Alphabet rule :=
  ⟨[], fun scan => .of_track_eq (still scan)⟩

/-- A rule that leaves the word as another rule does has the letters of this rule. -/
@[reducible] def ofRun (inner : Rule) [Alphabet inner]
    (same : ∀ scan, (outer.run scan).2.track = (inner.run scan).2.track) : Alphabet outer :=
  ⟨Alphabet.letters inner, fun scan => (gains scan).trans (.of_track_eq (same scan))⟩

section Reading

instance : Alphabet skip := ofStill fun _ => rfl
instance (condition : Scan → Bool) : Alphabet (require condition) := ofStill fun _ => rfl
instance : Alphabet atLimit := inferInstanceAs (Alphabet (require _))
instance : Alphabet flagged := inferInstanceAs (Alphabet (require _))
instance (mark : Mark) : Alphabet (atMark mark) := inferInstanceAs (Alphabet (require _))
instance (mark : Mark) : Alphabet (inRegion mark) := inferInstanceAs (Alphabet (require _))

instance : Alphabet openSlice := ofStill fun _ => rfl
instance : Alphabet closeSlice := ofStill fun _ => rfl
instance : Alphabet saveSlice := ofStill fun _ => rfl
instance : Alphabet setFlag := ofStill fun _ => rfl
instance : Alphabet clearFlag := ofStill fun _ => rfl
instance (mark : Mark) : Alphabet (setMark mark) := ofStill fun _ => rfl
instance (mark : Mark) : Alphabet (setMarkAtEnd mark) := ofStill fun _ => rfl

instance (mark target : Mark) : Alphabet (raiseMark mark target) := ofStill fun scan => by
  simp only [raiseMark]
  split <;> rfl

instance (count : Nat) : Alphabet (hop count) := ofStill fun scan => by
  simp only [hop]
  split
  · exact track_advance scan count
  · rfl

instance : Alphabet next := inferInstanceAs (Alphabet (hop 1))

instance (condition : Char → Bool) : Alphabet (character condition) := ofStill fun scan => by
  simp only [character]
  split
  · split
    · exact track_advance scan 1
    · rfl
  · rfl

instance (letters : Text) : Alphabet (letter letters) :=
  inferInstanceAs (Alphabet (character _))

instance (letters : Text) : Alphabet (otherThan letters) :=
  inferInstanceAs (Alphabet (character _))

/-- Looking for a literal rewrites nothing, whether it is found or not. -/
theorem track_literal (text : Text) (scan : Scan) :
    ((literal text).run scan).2.track = scan.track := by
  simp only [literal]
  split
  · next passed => exact track_of_pass? passed
  · rfl

instance (text : Text) : Alphabet (literal text) := ofStill (track_literal text)
instance : Alphabet savedText := ofStill fun scan => track_literal scan.saved scan

end Reading

section Writing

instance (text : Text) : Alphabet (rewrite text) := ⟨text, fun scan => .replaceSlice scan text⟩
instance : Alphabet erase := inferInstanceAs (Alphabet (rewrite []))
instance (text : Text) : Alphabet (Rule.insert text) := ⟨text, fun scan => .insert scan text⟩

end Writing

section Combinators

variable (rule first second : Rule) [Alphabet rule] [Alphabet first] [Alphabet second]

instance : Alphabet (first >> second) where
  letters := Alphabet.letters first ++ Alphabet.letters second
  gains scan := by
    have ran := gains_run first scan
    have shape : (first >> second).run scan = match first.run scan with
      | (true, later) => second.run later
      | (false, later) => (false, later) := rfl
    rw [shape]
    generalize first.run scan = result at ran
    obtain ⟨_ | _, later⟩ := result
    · exact ran.orLeft
    · exact ran.orLeft.trans (gains later).orRight

instance : Alphabet (first <|> second) where
  letters := Alphabet.letters first ++ Alphabet.letters second
  gains scan := by
    have ran := gains_run first scan
    have shape : (first <|> second).run scan = match first.run scan with
      | (true, later) => (true, later)
      | (false, later) => second.run (later.seek scan.position) := rfl
    rw [shape]
    generalize first.run scan = result at ran
    obtain ⟨_ | _, later⟩ := result
    · exact (ran.seek scan.position).orLeft.trans (gains _).orRight
    · exact ran.orLeft

instance : Alphabet (both first second) where
  letters := Alphabet.letters first ++ Alphabet.letters second
  gains scan := by
    have ran := gains_run first scan
    simp only [both]
    generalize first.run scan = result at ran
    obtain ⟨_ | _, later⟩ := result
    · exact ran.orLeft
    · exact (ran.seek scan.position).orLeft.trans (gains _).orRight

instance : Alphabet (aside rule) := ofRun rule fun _ => track_seek _ _

instance : Alphabet (Rule.optional rule) := ofRun rule fun scan => by
  simp only [Rule.optional]
  rcases rule.run scan with ⟨_ | _, later⟩
  · exact track_seek later scan.position
  · rfl

instance : Alphabet (peek rule) := ofRun rule fun scan => by
  simp only [peek]
  rcases rule.run scan with ⟨_ | _, later⟩
  · rfl
  · exact track_seek later scan.position

instance : Alphabet (absent rule) := ofRun rule fun scan => by
  simp only [absent]
  rcases rule.run scan with ⟨_ | _, later⟩
  · exact track_seek later scan.position
  · rfl

instance : Alphabet (failAfter rule) := ofRun rule fun _ => rfl

instance : Alphabet (slice rule) := inferInstanceAs (Alphabet (openSlice >> rule >> closeSlice))

/-- However often a rule is repeated, its alphabet is enough. -/
theorem gains_repeatUpTo (fuel : Nat) (scan : Scan) :
    Gains (Alphabet.letters rule) scan (repeatUpTo rule fuel scan) := by
  induction fuel generalizing scan with
  | zero => exact .refl scan
  | succ fuel inductionHypothesis =>
      have ran := gains_run rule scan
      rw [repeatUpTo]
      generalize rule.run scan = result at ran
      obtain ⟨_ | _, later⟩ := result
      · exact ran.seek scan.position
      · exact ran.trans (inductionHypothesis later)

instance : Alphabet (many rule) := ⟨Alphabet.letters rule, fun scan => gains_repeatUpTo rule _ scan⟩

instance : Alphabet (atLeastOnce rule) := inferInstanceAs (Alphabet (rule >> many rule))

/-- However far the search for a place goes, only the rule that is tried there rewrites. -/
theorem gains_searchUpTo (fuel : Nat) (scan : Scan) :
    Gains (Alphabet.letters rule) scan (searchUpTo rule fuel scan).2.2 := by
  induction fuel generalizing scan with
  | zero => exact .refl scan
  | succ fuel inductionHypothesis =>
      have ran := gains_run rule scan
      rw [searchUpTo]
      generalize rule.run scan = result at ran
      obtain ⟨_ | _, later⟩ := result
      · have back := ran.seek scan.position
        dsimp only
        split
        · exact back
        · exact (back.trans (.of_track_eq (track_advance _ 1))).trans (inductionHypothesis _)
      · exact ran

instance : Alphabet (seekTo rule) where
  letters := Alphabet.letters rule
  gains scan := by
    have searched := gains_searchUpTo rule (scan.ahead.length + 1) scan
    simp only [seekTo]
    generalize searchUpTo rule _ scan = result at searched
    obtain ⟨_ | _, start, later⟩ := result
    · exact searched
    · exact searched.seek start

instance : Alphabet (seekPast rule) :=
  ⟨Alphabet.letters rule, fun scan => gains_searchUpTo rule (scan.ahead.length + 1) scan⟩

instance (mark : Mark) : Alphabet (within mark rule) where
  letters := Alphabet.letters rule
  gains scan := by
    simp only [within]
    split
    · exact .refl scan
    · exact gains_run rule { scan with reserve := scan.marks mark }

instance : Alphabet (Rule.fromEnd rule) where
  letters := Alphabet.letters rule
  gains scan := ((Gains.fromEnd scan).trans (gains scan.fromEnd)).trans (.fromStart _)

end Combinators

section Choices

instance (texts : List String) (action : Rule) [Alphabet action] :
    ChoiceAlphabet (on texts action) where
  letters := Alphabet.letters action
  gains choice member scan := by
    obtain ⟨text, _, rfl⟩ := List.mem_map.mp member
    exact gains scan

instance (guard : Rule) (texts : List String) (action : Rule) [Alphabet action] :
    ChoiceAlphabet (onGuarded guard texts action) where
  letters := Alphabet.letters action
  gains choice member scan := by
    obtain ⟨text, _, rfl⟩ := List.mem_map.mp member
    exact gains scan

instance (front back : List Choice) [ChoiceAlphabet front] [ChoiceAlphabet back] :
    ChoiceAlphabet (front ++ back) where
  letters := ChoiceAlphabet.letters front ++ ChoiceAlphabet.letters back
  gains choice member scan :=
    (List.mem_append.mp member).elim (fun early => (ChoiceAlphabet.gains choice early scan).orLeft)
      fun late => (ChoiceAlphabet.gains choice late scan).orRight

/-- The action of the longest choice gains no more letters than those of all choices. -/
theorem gains_longest {choices : List Choice} [ChoiceAlphabet choices] {scan later : Scan}
    {choice : Choice} (longest : Choice.longest choices scan = some (choice, later)) :
    later.track = scan.track ∧ ∀ place : Scan,
      Gains (ChoiceAlphabet.letters choices) place (choice.action.run place).2 :=
  have ⟨member, same⟩ := Choice.mem_of_longest (choice, later) longest
  ⟨same, ChoiceAlphabet.gains choice member⟩

variable (found : Rule) (choices : List Choice) [Alphabet found] [ChoiceAlphabet choices]

instance : Alphabet (among found choices) where
  letters := Alphabet.letters found ++ ChoiceAlphabet.letters choices
  gains scan := by
    simp only [among]
    split
    · exact .refl scan
    · next choice later longest =>
        obtain ⟨same, acts⟩ := gains_longest longest
        let action : Alphabet choice.action := ⟨ChoiceAlphabet.letters choices, acts⟩
        exact (Gains.of_track_eq same).trans (gains_run (found >> choice.action) later)

instance : Alphabet (sliceAmong found choices) :=
  inferInstanceAs (Alphabet (openSlice >> among (closeSlice >> found) choices))

instance (mark : Mark) : Alphabet (sliceAmongWithin mark choices) where
  letters := ChoiceAlphabet.letters choices
  gains scan := by
    simp only [sliceAmongWithin]
    split
    · exact .refl scan
    split
    · exact .of_track_eq rfl
    · next choice later longest =>
        obtain ⟨same, acts⟩ := gains_longest longest
        exact (Gains.of_track_eq same).trans (acts _)

instance : Alphabet (peekAmong choices) where
  letters := ChoiceAlphabet.letters choices
  gains scan := by
    simp only [peekAmong]
    split
    · exact .refl scan
    · next choice later longest => exact (gains_longest longest).2 scan

instance (texts : List String) : Alphabet (oneOf texts) :=
  inferInstanceAs (Alphabet (among skip (on texts skip)))

end Choices

/-- What a rule makes of a word has no characters but those of the word and those of the
alphabet. -/
theorem mem_apply {rule : Rule} [Alphabet rule] {word : Text} {c : Char}
    (member : c ∈ rule.apply word) : c ∈ word ∨ c ∈ Alphabet.letters rule :=
  gains (.ofWord word) c (mem_word.mp member)

end Alphabet
end BoolQuery.Stemming
