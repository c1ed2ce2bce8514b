import BoolQuery.Text.Blank

/-!
# Trimming

A text is tight if neither its first nor its last character is blank. `trim` finds the tight text
between two runs of blank characters: `exists_trim` cuts a text into these three parts, and
`trim_append` says that any such cut is the one found.
-/

namespace BoolQuery.Text

/-- Neither end of the text is blank. -/
structure Tight (text : Text) : Prop where
  start : ∀ c, text.head? = some c → isBlank c = false
  stop : ∀ c, text.getLast? = some c → isBlank c = false

/-- Without the blanks at its end, a text is a front part of itself. -/
theorem trimEnd_prefix (text : Text) : trimEnd text <+: text := by
  have kept : text.reverse.dropWhile isBlank <:+ text.reverse := List.dropWhile_suffix isBlank
  have reversed : (trimEnd text).reverse <:+ text.reverse := by simpa [trimEnd] using kept
  exact List.reverse_suffix.mp reversed

/-- What is left once leading blanks are dropped does not start with one. -/
theorem not_isBlank_of_head?_dropWhile {text : Text} {c : Char}
    (first : (text.dropWhile isBlank).head? = some c) : isBlank c = false := by
  have stopped := List.head?_dropWhile_not isBlank text
  rw [first] at stopped
  simpa using stopped

/-- A trimmed text has no blank at either end. -/
theorem tight_trim (text : Text) : Tight (trim text) where
  start := by
    intro c first
    obtain ⟨rest, joined⟩ := trimEnd_prefix (trimStart text)
    apply not_isBlank_of_head?_dropWhile
    change (trimStart text).head? = some c
    rw [← joined, List.head?_append]
    change (trimEnd (trimStart text)).head? = some c at first
    rw [first]
    rfl
  stop := by
    intro c last
    apply not_isBlank_of_head?_dropWhile
    rwa [trim, trimEnd, List.getLast?_reverse] at last

/-- Leading blanks are blank. -/
theorem mem_takeWhile_isBlank {text : Text} {c : Char} (member : c ∈ text.takeWhile isBlank) :
    isBlank c = true := by
  have all := List.all_takeWhile (p := isBlank) (l := text)
  exact List.all_eq_true.mp all c member

/-- What the blank characters at the start and the trimmed form leave of a text is blank. -/
theorem exists_takeWhile_append_trim (text : Text) :
    ∃ after, text = text.takeWhile isBlank ++ trim text ++ after ∧
      ∀ c ∈ after, isBlank c = true := by
  let started := trimStart text
  refine ⟨(started.reverse.takeWhile isBlank).reverse, ?_, fun c member => ?_⟩
  · have stopped : trim text ++ (started.reverse.takeWhile isBlank).reverse = started := by
      rw [trim, trimEnd, ← List.reverse_append, List.takeWhile_append_dropWhile,
        List.reverse_reverse]
    rw [List.append_assoc, stopped]
    exact List.takeWhile_append_dropWhile.symm
  · exact mem_takeWhile_isBlank (List.mem_reverse.mp member)

/-- A text is a blank run, its trimmed form and another blank run. -/
theorem exists_trim (text : Text) :
    ∃ before after, text = before ++ trim text ++ after ∧
      (∀ c ∈ before, isBlank c = true) ∧ ∀ c ∈ after, isBlank c = true := by
  obtain ⟨after, joined, afterBlank⟩ := exists_takeWhile_append_trim text
  exact ⟨_, after, joined, fun c member => mem_takeWhile_isBlank member, afterBlank⟩

/-- Trimming brings in no characters. -/
theorem mem_of_mem_trim {text : Text} {c : Char} (member : c ∈ trim text) : c ∈ text := by
  obtain ⟨before, after, joined, _⟩ := exists_trim text
  rw [joined]
  exact List.mem_append_left _ (List.mem_append_right _ member)

/-- Leading blanks can be dropped where what follows does not start with one. -/
theorem dropWhile_isBlank_append {blank : Text} (text : Text)
    (blankOnly : ∀ c ∈ blank, isBlank c = true)
    (start : ∀ c, text.head? = some c → isBlank c = false) :
    (blank ++ text).dropWhile isBlank = text := by
  rw [List.dropWhile_append_of_pos blankOnly]
  cases text with
  | nil => rfl
  | cons c rest => simp [start c rfl]

/-- Trimming removes blank runs around a tight text, and nothing else. -/
theorem trim_append {body : Text} (tight : Tight body) (before after : Text)
    (beforeBlank : ∀ c ∈ before, isBlank c = true) (afterBlank : ∀ c ∈ after, isBlank c = true) :
    trim (before ++ body ++ after) = body := by
  have ended : trimEnd (body ++ after) = body := by
    rw [trimEnd, List.reverse_append, dropWhile_isBlank_append _ (by simpa using afterBlank),
      List.reverse_reverse]
    simpa using tight.stop
  cases body with
  | nil =>
      have blankOnly : ∀ c ∈ before ++ after, isBlank c = true := by
        intro c member
        exact (List.mem_append.mp member).elim (beforeBlank c) (afterBlank c)
      have dropped := dropWhile_isBlank_append [] blankOnly (by simp)
      rw [List.append_nil] at dropped
      simp [trim, trimStart, trimEnd, dropped]
  | cons c rest =>
      have started : trimStart (before ++ (c :: rest ++ after)) = c :: rest ++ after :=
        dropWhile_isBlank_append _ beforeBlank (by simpa using tight.start)
      rw [trim, List.append_assoc, started, ended]

/-- Trimming changes no text without blanks at its ends. -/
theorem trim_eq_self {text : Text} (tight : Tight text) : trim text = text := by
  simpa using trim_append tight [] [] (by simp) (by simp)

/-- Nothing is left exactly of blank texts. -/
theorem trim_eq_nil_iff {text : Text} : trim text = [] ↔ ∀ c ∈ text, isBlank c = true := by
  constructor
  · intro empty c member
    obtain ⟨before, after, joined, beforeBlank, afterBlank⟩ := exists_trim text
    rw [joined, empty, List.append_nil] at member
    exact (List.mem_append.mp member).elim (beforeBlank c) (afterBlank c)
  · intro blankOnly
    have tight : Tight [] := ⟨by simp, by simp⟩
    simpa using trim_append tight text [] blankOnly (by simp)

end BoolQuery.Text
