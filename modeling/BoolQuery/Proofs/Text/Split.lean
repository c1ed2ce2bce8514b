import BoolQuery.Text.Basic

/-!
# Cutting at a separator

`splitAtEach` cuts a text at every occurrence of a separator as `List.splitOn` does, and `joinWith`
joins texts as `List.intercalate` does. So the facts about these carry over: cutting gives back what
was joined (`splitAtEach_joinWith`), and joining gives back what was cut (`joinWith_splitAtEach`).
From this it follows that texts written line by line can be read back as long as the line feed
occurs nowhere else (`splitAtEach_lines_iff`).
-/

namespace BoolQuery.Text

variable {separator c : Char}

/-- Cutting a text is splitting a list. -/
theorem splitAtEach_eq_splitOn (separator : Char) (text : Text) :
    splitAtEach separator text = text.splitOn separator := by
  induction text with
  | nil => rfl
  | cons c rest inductionHypothesis =>
      rw [splitAtEach, inductionHypothesis, List.splitOn_cons_eq_if_modifyHead]
      cases found : rest.splitOn separator with
      | nil => exact absurd found (List.splitOn_ne_nil separator rest)
      | cons piece pieces => simp

/-- Joining texts is putting a list between neighbours of others. -/
theorem joinWith_eq_intercalate (separator : Text) (texts : List Text) :
    joinWith separator texts = separator.intercalate texts := by
  induction texts with
  | nil => rfl
  | cons text texts inductionHypothesis =>
      cases texts with
      | nil => exact List.intercalate_singleton.symm
      | cons second texts =>
          rw [List.intercalate_cons_cons, ← inductionHypothesis]
          rfl

/-- A separator at the front ends an empty piece. -/
theorem splitAtEach_self (separator : Char) (rest : Text) :
    splitAtEach separator (separator :: rest) = [] :: splitAtEach separator rest := by
  simp only [splitAtEach_eq_splitOn, List.splitOn_cons_eq_if_modifyHead, beq_self_eq_true, if_true]

/-- There is always a first piece. -/
theorem exists_splitAtEach (separator : Char) (text : Text) :
    ∃ piece pieces, splitAtEach separator text = piece :: pieces := by
  rw [splitAtEach_eq_splitOn]
  exact List.exists_cons_of_ne_nil (List.splitOn_ne_nil separator text)

/-- Any other character joins the first piece of what follows. -/
theorem splitAtEach_cons (other : c ≠ separator) (rest : Text) :
    splitAtEach separator (c :: rest) = (splitAtEach separator rest).modifyHead (c :: ·) := by
  simp only [splitAtEach_eq_splitOn, List.splitOn_cons_eq_if_modifyHead, beq_iff_eq, if_neg other]

/-- The pieces on either side of a separator. -/
theorem splitAtEach_append (separator : Char) (front back : Text) :
    splitAtEach separator (front ++ separator :: back) =
      splitAtEach separator front ++ splitAtEach separator back := by
  simp only [splitAtEach_eq_splitOn]
  exact List.splitOn_append_cons_self front back

/-- A text without the separator is one piece. -/
theorem splitAtEach_of_not_mem {text : Text} (absent : separator ∉ text) :
    splitAtEach separator text = [text] := by
  rw [splitAtEach_eq_splitOn]
  exact List.splitOn_eq_singleton absent

/-- No piece holds the separator. -/
theorem not_mem_of_mem_splitAtEach {text piece : Text}
    (member : piece ∈ splitAtEach separator text) : separator ∉ piece := by
  induction text generalizing piece with
  | nil =>
      rw [List.mem_singleton.mp member]
      exact List.not_mem_nil
  | cons c rest inductionHypothesis =>
      by_cases same : c = separator
      · subst same
        rw [splitAtEach_self] at member
        rcases List.mem_cons.mp member with rfl | later
        · exact List.not_mem_nil
        · exact inductionHypothesis later
      · obtain ⟨first, pieces, found⟩ := exists_splitAtEach separator rest
        rw [splitAtEach_cons same, found, List.modifyHead_cons] at member
        rw [found] at inductionHypothesis
        rcases List.mem_cons.mp member with rfl | later
        · exact List.not_mem_cons_of_ne_of_not_mem (Ne.symm same)
            (inductionHypothesis List.mem_cons_self)
        · exact inductionHypothesis (List.mem_cons_of_mem first later)

/-- A text in front of others is followed by a separator. -/
theorem joinWith_cons {texts : List Text} (filled : texts ≠ []) (separator text : Text) :
    joinWith separator (text :: texts) = text ++ separator ++ joinWith separator texts := by
  simp only [joinWith_eq_intercalate]
  exact List.intercalate_cons_of_ne_nil filled

/-- A joined text starts with the first of the texts. -/
theorem exists_joinWith_cons (separator first : Text) (texts : List Text) :
    ∃ after, joinWith separator (first :: texts) = first ++ after := by
  by_cases alone : texts = []
  · rw [alone]
    exact ⟨[], (List.append_nil first).symm⟩
  · rw [joinWith_cons alone, List.append_assoc]
    exact ⟨_, rfl⟩

/-- A joined text ends with the last of the texts. -/
theorem exists_joinWith_concat (separator last : Text) (texts : List Text) :
    ∃ before, joinWith separator (texts ++ [last]) = before ++ last := by
  induction texts with
  | nil => exact ⟨[], rfl⟩
  | cons first texts inductionHypothesis =>
      obtain ⟨before, joined⟩ := inductionHypothesis
      rw [List.cons_append, joinWith_cons (List.concat_ne_nil last texts), joined,
        ← List.append_assoc]
      exact ⟨_, rfl⟩

/-- Joining the pieces of a text gives it back. -/
theorem joinWith_splitAtEach (separator : Char) (text : Text) :
    joinWith [separator] (splitAtEach separator text) = text := by
  rw [joinWith_eq_intercalate, splitAtEach_eq_splitOn]
  exact List.intercalate_splitOn separator

/-- Cutting joined texts gives back those before the last one, unless the separator occurs in one of
these. The last one is cut up further. -/
theorem splitAtEach_joinWith_concat {texts : List Text} (absent : ∀ text ∈ texts, separator ∉ text)
    (last : Text) :
    splitAtEach separator (joinWith [separator] (texts ++ [last])) =
      texts ++ splitAtEach separator last := by
  induction texts with
  | nil => rfl
  | cons text texts inductionHypothesis =>
      obtain ⟨textAbsent, restAbsent⟩ := List.forall_mem_cons.mp absent
      have filled : texts ++ [last] ≠ [] := List.concat_ne_nil last texts
      rw [List.cons_append, joinWith_cons filled, List.append_assoc, List.singleton_append,
        splitAtEach_append, splitAtEach_of_not_mem textAbsent, inductionHypothesis restAbsent]
      rfl

/-- Cutting joined texts at the separator gives them back, unless it occurs in one of them. -/
theorem splitAtEach_joinWith {texts : List Text} (filled : texts ≠ [])
    (absent : ∀ text ∈ texts, separator ∉ text) :
    splitAtEach separator (joinWith [separator] texts) = texts := by
  rw [splitAtEach_eq_splitOn, joinWith_eq_intercalate]
  exact List.splitOn_intercalate separator absent filled

/-- The first pieces of a text are what is cut out of the text joined from them. -/
theorem splitAtEach_joinWith_of_append {text : Text} {front back : List Text}
    (pieces : splitAtEach separator text = front ++ back) (filled : front ≠ []) :
    splitAtEach separator (joinWith [separator] front) = front :=
  splitAtEach_joinWith filled fun _ member =>
    not_mem_of_mem_splitAtEach (pieces ▸ List.mem_append_left back member)

/-- Joined texts hold no characters but their own and those of the separator. -/
theorem mem_joinWith_iff {texts : List Text} (other : c ≠ separator) :
    c ∈ joinWith [separator] texts ↔ ∃ text ∈ texts, c ∈ text := by
  induction texts with
  | nil => simp [joinWith]
  | cons text texts inductionHypothesis =>
      cases texts with
      | nil => simp [joinWith]
      | cons second texts =>
          rw [joinWith_cons (List.cons_ne_nil _ _), List.mem_append, List.mem_append,
            inductionHypothesis]
          simp [other]

/-- The lines of a text end where the line feeds are, so cutting gives back texts written line by
line, followed by nothing, exactly if none of them holds a line feed. -/
theorem splitAtEach_lines_iff {texts : List Text} :
    splitAtEach '\n' (texts.flatMap line) = texts ++ [[]] ↔ ∀ text ∈ texts, '\n' ∉ text := by
  constructor
  · intro same text member
    exact not_mem_of_mem_splitAtEach (same ▸ List.mem_append_left [[]] member)
  · intro absent
    induction texts with
    | nil => rfl
    | cons text texts inductionHypothesis =>
        obtain ⟨textAbsent, restAbsent⟩ := List.forall_mem_cons.mp absent
        rw [List.flatMap_cons, line, List.append_assoc, List.singleton_append, splitAtEach_append,
          splitAtEach_of_not_mem textAbsent, inductionHypothesis restAbsent]
        rfl

/-- The text between two characters that stand at its ends. -/
def between? (first last : Char) : Text → Option Text
  | [] => none
  | c :: rest => if c == first && rest.getLast? == some last then some rest.dropLast else none

/-- What stands between two characters is found between them. -/
@[simp] theorem between?_append (first last : Char) (text : Text) :
    between? first last ([first] ++ text ++ [last]) = some text := by
  simp [between?]

end BoolQuery.Text
