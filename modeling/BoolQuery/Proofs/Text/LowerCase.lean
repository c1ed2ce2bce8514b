import BoolQuery.Text.LowerCase

/-!
# What a character becomes where it is lowered

`LowersTo` lists the characters that a character can become, and every character of a lowered text
comes from one character in this way (`exists_of_mem_lowerAfter`). Later proofs argue by cases on
`LowersTo` and do not search the runs.

The images of all runs lie beyond `Z`, and the first run takes the letters `A` to `Z` away. So no
lowered text holds one of these letters. Characters before `A` belong to no run and are the image of
none, so they come from themselves alone.
-/

namespace BoolQuery.Text

/-- What a character can become where it is lowered, one case for each way. -/
inductive LowersTo : Char → Char → Prop where
  | dotted {d} (form : d = 'i' ∨ d = '\u0307') : LowersTo 'İ' d
  | finalSigma : LowersTo 'Σ' 'ς'
  | moved {c run} (listed : run ∈ lowerRuns) (covered : run.covers c.toNat = true) :
      LowersTo c (Char.ofNat (run.apply c.toNat))
  | same {c} (plain : c ≠ 'İ') (noRun : ∀ run ∈ lowerRuns, ¬run.covers c.toNat = true) :
      LowersTo c c

section Images

variable {before text : Text} {c d : Char}

/-- Every character of a lower-case form is what one of the ways of lowering gives. -/
theorem lowersTo_of_mem_lowerChar (member : d ∈ lowerChar c) : LowersTo c d := by
  unfold lowerChar at member
  split at member
  · next dotted =>
      subst dotted
      exact .dotted (by simpa using member)
  · next plain =>
      split at member
      · next run found =>
          have covered := List.find?_some found
          rw [List.mem_singleton.mp member]
          exact .moved (List.mem_of_find?_eq_some found) covered
      · next notFound =>
          rw [List.mem_singleton.mp member]
          exact .same plain (List.find?_eq_none.mp notFound)

/-- No character vanishes when it is lowered. -/
theorem lowerChar_ne_nil (c : Char) : lowerChar c ≠ [] := by
  unfold lowerChar
  split
  · simp
  · split <;> simp

/-- A character that no run covers is its own lower-case form. -/
theorem lowerChar_eq_self (plain : c ≠ 'İ')
    (noRun : ∀ run ∈ lowerRuns, ¬run.covers c.toNat = true) : lowerChar c = [c] := by
  rw [lowerChar, if_neg plain, List.find?_eq_none.mpr noRun]

/-- The first character of a text is lowered in front of the rest, and never to nothing. -/
theorem exists_lowerAfter_cons (before : Text) (c : Char) (rest : Text) :
    ∃ image, lowerAfter before (c :: rest) = image ++ lowerAfter (c :: before) rest ∧
      image ≠ [] ∧ ∀ d ∈ image, LowersTo c d := by
  refine ⟨_, rfl, ?_, fun d member => ?_⟩
  · split
    · split <;> simp
    · exact lowerChar_ne_nil c
  · split at member
    · next sigma =>
        subst sigma
        split at member
        · rw [List.mem_singleton.mp member]
          exact .finalSigma
        · rw [List.mem_singleton.mp member]
          exact lowersTo_of_mem_lowerChar (by decide +kernel)
    · exact lowersTo_of_mem_lowerChar member

/-- A character of a lowered text comes from one character. -/
theorem exists_of_mem_lowerAfter (member : c ∈ lowerAfter before text) :
    ∃ origin ∈ text, LowersTo origin c := by
  induction text generalizing before with
  | nil => simp [lowerAfter] at member
  | cons first rest inductionHypothesis =>
      obtain ⟨image, lowered, _, forms⟩ := exists_lowerAfter_cons before first rest
      rw [lowered] at member
      rcases List.mem_append.mp member with head | tail
      · exact ⟨first, List.mem_cons_self, forms c head⟩
      · obtain ⟨origin, inRest, lowers⟩ := inductionHypothesis tail
        exact ⟨origin, List.mem_cons_of_mem first inRest, lowers⟩

/-- Only the empty text is lowered to the empty text. -/
theorem lowerAfter_eq_nil_iff : lowerAfter before text = [] ↔ text = [] := by
  cases text with
  | nil => simp [lowerAfter]
  | cons c rest =>
      obtain ⟨image, lowered, filled, _⟩ := exists_lowerAfter_cons before c rest
      simp [lowered, filled]

/-- A text whose characters are their own lower-case forms is its own lower-case form. -/
theorem lowerAfter_eq_self (own : ∀ c ∈ text, lowerChar c = [c]) :
    lowerAfter before text = text := by
  induction text generalizing before with
  | nil => rfl
  | cons c rest inductionHypothesis =>
      have ownFirst := own c List.mem_cons_self
      have notSigma : c ≠ 'Σ' := by
        rintro rfl
        exact absurd ownFirst (by decide +kernel)
      rw [lowerAfter, if_neg notSigma, ownFirst,
        inductionHypothesis fun d member => own d (List.mem_cons_of_mem c member)]
      rfl

end Images

/-! ### Capital letters -/

/-- The code points of capital ASCII letters. -/
theorem isUpper_iff {c : Char} : c.isUpper = true ↔ 0x41 ≤ c.toNat ∧ c.toNat ≤ 0x5A := by
  change decide ('A'.val ≤ c.val ∧ c.val ≤ 'Z'.val) = true ↔ _
  rw [decide_eq_true_iff, UInt32.le_iff_toNat_le, UInt32.le_iff_toNat_le]
  rfl

/-- Code points without a character stand for the character zero. -/
theorem toNat_ofNat {n : Nat} (positive : 0 < (Char.ofNat n).toNat) : (Char.ofNat n).toNat = n := by
  by_cases valid : n.isValidChar
  · rw [Char.ofNat, dif_pos valid]
    rfl
  · rw [Char.ofNat, dif_neg valid] at positive
    exact absurd positive (by decide)

/-- Code points beyond `Z` are no capital ASCII letters. -/
theorem isUpper_ofNat {n : Nat} (beyond : 0x5A < n) : (Char.ofNat n).isUpper = false := by
  rw [Bool.eq_false_iff, ne_eq, isUpper_iff]
  rintro ⟨capital, atMost⟩
  rw [toNat_ofNat (by omega)] at atMost
  omega

/-- The images of all runs lie beyond `Z`. -/
theorem lowerRuns_image_beyond : ∀ run ∈ lowerRuns, 0x5A < run.image := by
  decide +kernel

/-- The image of a run is the least code point that it leads to. -/
theorem LowerRun.image_le_apply (run : LowerRun) (codePoint : Nat) :
    run.image ≤ run.apply codePoint :=
  Nat.le_add_right _ _

/-- A character without a run of its own is no capital letter, since these form the first run. -/
theorem not_isUpper_of_noRun {c : Char} (noRun : ∀ run ∈ lowerRuns, ¬run.covers c.toNat = true) :
    c.isUpper = false := by
  have capitals : (⟨0x0041, 0x005A, 1, 0x0061⟩ : LowerRun) ∈ lowerRuns := List.mem_cons_self
  have outside := noRun _ capitals
  rw [Bool.eq_false_iff, ne_eq, isUpper_iff]
  simpa [LowerRun.covers, Nat.mod_one] using outside

/-- Nothing is lowered to one of the letters `A` to `Z`. -/
theorem LowersTo.not_isUpper {c d : Char} (lowers : LowersTo c d) : d.isUpper = false := by
  cases lowers with
  | dotted form => rcases form with rfl | rfl <;> decide
  | finalSigma => decide
  | @moved _ run listed covered =>
      have beyond := lowerRuns_image_beyond run listed
      exact isUpper_ofNat (Nat.lt_of_lt_of_le beyond (run.image_le_apply _))
  | same _ noRun => exact not_isUpper_of_noRun noRun

/-- No lower-cased text holds one of the letters `A` to `Z`. -/
theorem not_isUpper_of_mem_lower {text : Text} {c : Char} (member : c ∈ lower text) :
    c.isUpper = false := by
  obtain ⟨_, _, lowers⟩ := exists_of_mem_lowerAfter member
  exact lowers.not_isUpper

/-! ### Characters before `A` -/

section Early

variable {text : Text} {c d : Char}

/-- A character before `A` is what no other character is lowered to. The character zero is left out,
as it stands in for code points that no character has. -/
theorem LowersTo.eq_of_early (lowers : LowersTo c d) (positive : 0 < d.toNat)
    (early : d.toNat ≤ 0x40) : c = d := by
  cases lowers with
  | dotted form => rcases form with rfl | rfl <;> exact absurd early (by decide)
  | finalSigma => exact absurd early (by decide)
  | @moved _ run listed covered =>
      have beyond := lowerRuns_image_beyond run listed
      have moved := run.image_le_apply c.toNat
      rw [toNat_ofNat positive] at early
      omega
  | same => rfl

/-- No run covers a character before `A`. -/
theorem lowerRuns_first_beyond : ∀ run ∈ lowerRuns, 0x40 < run.first := by
  decide +kernel

/-- A character before `A` is its own lower-case form. -/
theorem lowerChar_of_early (early : c.toNat ≤ 0x40) : lowerChar c = [c] := by
  apply lowerChar_eq_self
  · rintro rfl
    exact absurd early (by decide)
  · intro run member covered
    have beyond := lowerRuns_first_beyond run member
    simp only [LowerRun.covers, Bool.and_eq_true, decide_eq_true_eq] at covered
    omega

/-- A single character before `A` is what is left of itself alone. -/
theorem lower_eq_singleton_iff (positive : 0 < d.toNat) (early : d.toNat ≤ 0x40) :
    lower text = [d] ↔ text = [d] := by
  constructor
  · intro lowered
    cases text with
    | nil => simp [lower, lowerAfter] at lowered
    | cons c rest =>
        obtain ⟨image, parts, filled, forms⟩ := exists_lowerAfter_cons [] c rest
        obtain ⟨first, others, rfl⟩ := List.exists_cons_of_ne_nil filled
        rw [lower, parts, List.cons_append, List.cons.injEq, List.append_eq_nil_iff,
          lowerAfter_eq_nil_iff] at lowered
        obtain ⟨rfl, _, rfl⟩ := lowered
        rw [(forms first List.mem_cons_self).eq_of_early positive early]
  · rintro rfl
    exact lowerAfter_eq_self (List.forall_mem_singleton.mpr (lowerChar_of_early early))

/-- Lower-casing adds no character before `A`. -/
theorem mem_of_mem_lower (positive : 0 < d.toNat) (early : d.toNat ≤ 0x40)
    (member : d ∈ lower text) : d ∈ text := by
  obtain ⟨origin, inText, lowers⟩ := exists_of_mem_lowerAfter member
  rwa [← lowers.eq_of_early positive early]

/-- Lowering characters one by one brings in no character before `A`. -/
theorem mem_of_mem_foldEach (positive : 0 < d.toNat) (early : d.toNat ≤ 0x40)
    (member : d ∈ foldEach text) : d ∈ text := by
  obtain ⟨origin, inText, image⟩ := List.mem_flatMap.mp member
  rwa [← (lowersTo_of_mem_lowerChar image).eq_of_early positive early]

end Early

end BoolQuery.Text
