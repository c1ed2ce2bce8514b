import BoolQuery.Proofs.Text.LowerCase
import BoolQuery.Proofs.Text.Trim

/-!
# Lowered texts stay as they are

No run covers an image of a run (`lowerRuns_misses`), so what a character is lowered to is its own
lower-case form (`LowersTo.lowerChar_eq`). Only a capital sigma is lowered with a view to its
neighbours, and no lowered text holds one. Hence lower-casing a text for the second time changes
nothing (`lower_lower`), and neither does lower-casing each of its characters (`foldEach_lower`).

Only blank characters are lowered to blank ones, and every character is lowered to something. So a
text that is tight stays so when it is lowered (`tight_lower`), and a term has to be trimmed only
once (`trim_lower_trim`).
-/

namespace BoolQuery.Text

namespace LowerRun

/-- The code points that a run covers lie between its ends at regular distances. -/
theorem covers_iff {run : LowerRun} {n : Nat} :
    run.covers n = true ↔ run.first ≤ n ∧ n ≤ run.last ∧ (n - run.first) % run.step = 0 := by
  simp [covers, and_assoc]

/-- Whether no image of a run belongs to another run: the images lie before or behind it, or where
it has its gaps. -/
def misses (run other : LowerRun) : Bool :=
  Nat.blt (run.image + (run.last - run.first)) other.first || Nat.blt other.last run.image ||
    ((run.step == 2 || run.first == run.last) && other.step == 2 &&
      run.image % 2 != other.first % 2)

/-- Where no image of a run belongs to another run, the other run leaves the images alone. -/
theorem not_covers_of_misses {run other : LowerRun} (misses : run.misses other = true) {n : Nat}
    (covered : run.covers n = true) : ¬other.covers (run.apply n) = true := by
  obtain ⟨atLeast, atMost, stepped⟩ := covers_iff.mp covered
  rw [covers_iff, apply]
  rintro ⟨otherAtLeast, otherAtMost, otherStepped⟩
  simp only [LowerRun.misses, Bool.or_eq_true, Nat.blt_eq, Bool.and_eq_true, beq_iff_eq,
    bne_iff_ne] at misses
  rcases misses with (before | behind) | ⟨⟨stride, otherStride⟩, gaps⟩
  · omega
  · omega
  · have even : (n - run.first) % 2 = 0 := by
      rcases stride with two | single
      · rwa [two] at stepped
      · omega
    rw [otherStride] at otherStepped
    omega

end LowerRun

/-- No image of any run belongs to a run, checked for all pairs at once. -/
theorem lowerRuns_all_misses : (lowerRuns.all fun run => lowerRuns.all run.misses) = true := by
  decide +kernel

/-- No image of a run belongs to a run. -/
theorem lowerRuns_misses {run other : LowerRun} (member : run ∈ lowerRuns)
    (otherMember : other ∈ lowerRuns) : run.misses other = true :=
  List.all_eq_true.mp (List.all_eq_true.mp lowerRuns_all_misses run member) other otherMember

/-- The one character with a lower-case form of two characters is no image of a run. -/
theorem lowerRuns_misses_dotted : ∀ run ∈ lowerRuns, run.misses ⟨0x0130, 0x0130, 2, 0⟩ = true := by
  decide +kernel

/-- What a character is lowered to is its own lower-case form. -/
theorem LowersTo.lowerChar_eq {c d : Char} (lowers : LowersTo c d) : lowerChar d = [d] := by
  cases lowers with
  | dotted form => rcases form with rfl | rfl <;> decide +kernel
  | finalSigma => decide +kernel
  | @moved _ run listed covered =>
      by_cases positive : 0 < (Char.ofNat (run.apply c.toNat)).toNat
      · have code := toNat_ofNat positive
        apply lowerChar_eq_self
        · intro dotted
          have missed := LowerRun.not_covers_of_misses (lowerRuns_misses_dotted run listed) covered
          rw [← code, dotted] at missed
          exact missed (by decide)
        · intro other otherListed
          rw [code]
          exact LowerRun.not_covers_of_misses (lowerRuns_misses listed otherListed) covered
      · have zero : (Char.ofNat (run.apply c.toNat)).toNat = 0 := Nat.eq_zero_of_not_pos positive
        exact lowerChar_of_early (zero ▸ Nat.zero_le 0x40)
  | same plain noRun => exact lowerChar_eq_self plain noRun

/-- A character of a lowered text is its own lower-case form. -/
theorem lowerChar_of_mem_lower {text : Text} {c : Char} (member : c ∈ lower text) :
    lowerChar c = [c] := by
  obtain ⟨_, _, lowers⟩ := exists_of_mem_lowerAfter member
  exact lowers.lowerChar_eq

/-- Lower-casing a text for the second time changes nothing. -/
theorem lower_lower (text : Text) : lower (lower text) = lower text :=
  lowerAfter_eq_self fun _ => lowerChar_of_mem_lower

/-- A text of characters that are their own lower-case forms is not changed by lowering each. -/
theorem foldEach_eq_self {text : Text} (own : ∀ c ∈ text, lowerChar c = [c]) :
    foldEach text = text := by
  induction text with
  | nil => rfl
  | cons c rest inductionHypothesis =>
      rw [foldEach, List.flatMap_cons, own c List.mem_cons_self]
      exact congrArg (c :: ·) <|
        inductionHypothesis fun d member => own d (List.mem_cons_of_mem c member)

/-- Lower-casing every character of a lowered text on its own changes nothing. -/
theorem foldEach_lower (text : Text) : foldEach (lower text) = lower text :=
  foldEach_eq_self fun _ => lowerChar_of_mem_lower

section Ends

/-- No image of a run is blank. -/
theorem lowerRuns_misses_blanks :
    ∀ run ∈ lowerRuns, ∀ range ∈ blanks, run.misses ⟨range.first, range.last, 1, 0⟩ = true := by
  decide +kernel

/-- Only a blank character is lowered to a blank one. -/
theorem LowersTo.isBlank {c d : Char} (lowers : LowersTo c d) (blank : Text.isBlank d = true) :
    Text.isBlank c = true := by
  cases lowers with
  | dotted form => rcases form with rfl | rfl <;> exact absurd blank (by decide)
  | finalSigma => exact absurd blank (by decide)
  | @moved _ run listed covered =>
      obtain ⟨range, ofBlanks, within⟩ := List.any_eq_true.mp blank
      simp only [CharRange.covers, Bool.and_eq_true, decide_eq_true_eq] at within
      have positive : ∀ range ∈ blanks, 0 < range.first := by decide
      have bounded := positive range ofBlanks
      rw [toNat_ofNat (by omega)] at within
      have misses := lowerRuns_misses_blanks run listed range ofBlanks
      refine absurd ?_ (LowerRun.not_covers_of_misses misses covered)
      exact LowerRun.covers_iff.mpr ⟨within.1, within.2, Nat.mod_one _⟩
  | same => exact blank

/-- A blank at the start of a lowered text comes from one at the start of the text. -/
theorem exists_of_head?_lowerAfter {before text : Text} {d : Char}
    (first : (lowerAfter before text).head? = some d) (blank : isBlank d = true) :
    ∃ c, text.head? = some c ∧ isBlank c = true := by
  cases text with
  | nil => simp [lowerAfter] at first
  | cons c rest =>
      obtain ⟨image, lowered, filled, forms⟩ := exists_lowerAfter_cons before c rest
      obtain ⟨start, others, rfl⟩ := List.exists_cons_of_ne_nil filled
      rw [lowered, List.cons_append, List.head?_cons, Option.some.injEq] at first
      subst first
      exact ⟨c, rfl, (forms start List.mem_cons_self).isBlank blank⟩

/-- A blank at the end of a lowered text comes from one at the end of the text. -/
theorem exists_of_getLast?_lowerAfter {before text : Text} {d : Char}
    (last : (lowerAfter before text).getLast? = some d) (blank : isBlank d = true) :
    ∃ c, text.getLast? = some c ∧ isBlank c = true := by
  induction text generalizing before with
  | nil => simp [lowerAfter] at last
  | cons c rest inductionHypothesis =>
      obtain ⟨image, lowered, _, forms⟩ := exists_lowerAfter_cons before c rest
      rw [lowered, List.getLast?_append] at last
      cases tail : (lowerAfter (c :: before) rest).getLast? with
      | none =>
          rw [tail] at last
          rw [List.getLast?_eq_none_iff, lowerAfter_eq_nil_iff] at tail
          rw [tail]
          exact ⟨c, rfl, (forms d (List.mem_of_getLast? last)).isBlank blank⟩
      | some other =>
          rw [tail] at last
          obtain ⟨e, ends, eBlank⟩ := inductionHypothesis (tail.trans last)
          refine ⟨e, ?_, eBlank⟩
          rw [List.getLast?_cons, ends]
          rfl

/-- Lower-casing lets no blank character in at the ends. -/
theorem tight_lower {text : Text} (tight : Tight text) : Tight (lower text) where
  start := by
    intro d first
    refine Bool.eq_false_iff.mpr fun blank => ?_
    obtain ⟨c, head, cBlank⟩ := exists_of_head?_lowerAfter first blank
    rw [tight.start c head] at cBlank
    cases cBlank
  stop := by
    intro d last
    refine Bool.eq_false_iff.mpr fun blank => ?_
    obtain ⟨c, ends, cBlank⟩ := exists_of_getLast?_lowerAfter last blank
    rw [tight.stop c ends] at cBlank
    cases cBlank

/-- Trimming a text that was trimmed before it was lowered changes nothing. -/
theorem trim_lower_trim (text : Text) : trim (lower (trim text)) = lower (trim text) :=
  trim_eq_self (tight_lower (tight_trim text))

end Ends

end BoolQuery.Text
