import BoolQuery.Proofs.Text.Trim
import BoolQuery.Token

/-!
# Reading segments off a query

`solid` keeps the segments of a text that are not empty. The theorems named after a character or a
word say which segment a text starts with; together they read the segments of a query from left to
right without looking at how a text is cut. What follows a closing parenthesis or a word has to
break the segment: it is empty or starts with a space or a closing parenthesis.
-/

namespace BoolQuery

namespace Segment

/-- The segments of a text that are not empty. -/
def solid (offset : Nat) (text : Text) : List Segment :=
  (cut offset text).filter fun segment => !segment.text.isEmpty

/-- A text after which a segment cannot go on. -/
def Breaks : Text → Prop
  | [] => True
  | c :: _ => c = ' ' ∨ c = ')'

/-- A character that neither ends nor starts a segment. -/
structure Plain (c : Char) : Prop where
  notSpace : c ≠ ' '
  notOpen : c ≠ '('
  notClose : c ≠ ')'

variable {offset : Nat} {c : Char} {word rest : Text}

/-- Where a segment cannot go on, the first segment that is cut is empty. -/
theorem cut_of_breaks (offset : Nat) (breaks : Breaks rest) :
    ∃ later, cut offset rest = ⟨offset, []⟩ :: later := by
  cases rest with
  | nil => exact ⟨[], rfl⟩
  | cons c rest =>
      rcases breaks with rfl | rfl
      · exact ⟨_, rfl⟩
      · exact ⟨_, rfl⟩

/-- A plain character joins the first segment of what follows. -/
theorem cut_plain (plain : Plain c) :
    cut offset (c :: rest) = extendFirst offset c (cut (offset + c.utf8Size) rest) := by
  simp [cut, plain.notSpace, plain.notOpen, plain.notClose]

/-- Plain characters join the first segment of what follows. -/
theorem cut_append_plain (plain : ∀ c ∈ word, Plain c) {first : Text} {later : List Segment}
    (following : cut (offset + Text.byteLength word) rest =
      ⟨offset + Text.byteLength word, first⟩ :: later) :
    cut offset (word ++ rest) = ⟨offset, word ++ first⟩ :: later := by
  induction word generalizing offset with
  | nil => simpa using following
  | cons c word inductionHypothesis =>
      obtain ⟨headPlain, tailPlain⟩ := List.forall_mem_cons.mp plain
      rw [Text.byteLength_cons, ← Nat.add_assoc] at following
      rw [List.cons_append, cut_plain headPlain, inductionHypothesis tailPlain following]
      rfl

@[simp] theorem solid_nil : solid offset [] = [] := rfl

theorem solid_space : solid offset (' ' :: rest) = solid (offset + 1) rest := rfl

/-- Spaces in front give no segments but move the others. -/
theorem solid_spaces (spaces : Nat) :
    solid offset (List.replicate spaces ' ' ++ rest) = solid (offset + spaces) rest := by
  induction spaces generalizing offset with
  | zero => rfl
  | succ spaces inductionHypothesis =>
      rw [List.replicate_succ, List.cons_append, solid_space, inductionHypothesis]
      congr 1
      omega

theorem solid_open : solid offset ('(' :: rest) = ⟨offset, ['(']⟩ :: solid (offset + 1) rest := rfl

/-- A closing parenthesis in front of a break is a segment. -/
theorem solid_close (breaks : Breaks rest) :
    solid offset (')' :: rest) = ⟨offset, [')']⟩ :: solid (offset + 1) rest := by
  obtain ⟨later, following⟩ := cut_of_breaks (offset + 1) breaks
  have started : cut offset (')' :: rest) = ⟨offset, []⟩ :: ⟨offset, [')']⟩ :: later := by
    have size : (')').utf8Size = 1 := by decide
    simp [cut, size, following, extendFirst]
  simp [solid, started, following]

/-- Plain characters in front of a break are one segment. -/
theorem solid_word (plain : ∀ c ∈ word, Plain c) (filled : word ≠ []) (breaks : Breaks rest) :
    solid offset (word ++ rest) =
      ⟨offset, word⟩ :: solid (offset + Text.byteLength word) rest := by
  obtain ⟨later, following⟩ := cut_of_breaks (offset + Text.byteLength word) breaks
  simp [solid, cut_append_plain plain following, following, filled]

/-- A segment that is extended is not empty. -/
theorem solid_extendFirst_ne_nil (segments : List Segment) :
    (extendFirst offset c segments).filter (fun segment => !segment.text.isEmpty) ≠ [] := by
  cases segments <;> simp [extendFirst]

/-- Only spaces leave no segment. -/
theorem solid_eq_nil_iff {text : Text} : solid offset text = [] ↔ ∀ c ∈ text, c = ' ' := by
  induction text generalizing offset with
  | nil => simp
  | cons c rest inductionHypothesis =>
      by_cases space : c = ' '
      · subst space
        rw [solid_space, inductionHypothesis]
        simp
      · have something : solid offset (c :: rest) ≠ [] := by
          by_cases opens : c = '('
          · simp [opens, solid_open]
          · by_cases closes : c = ')'
            · subst closes
              exact solid_extendFirst_ne_nil (cut (offset + (')').utf8Size) rest)
            · rw [solid, cut_plain ⟨space, opens, closes⟩]
              exact solid_extendFirst_ne_nil _
        simp [something, space]

end Segment

namespace Token

/-- Tokens are the solid segments of the trimmed query. -/
theorem ofQuery_eq (anyCase : Bool) (query : Text) :
    ofQuery anyCase query =
      (Segment.solid (Text.byteLength (query.takeWhile Text.isBlank)) (Text.trim query)).map
        fun segment => ⟨ofSegment anyCase segment.text, segment.offset⟩ := rfl

/-- A query has no tokens exactly if it is blank. -/
theorem ofQuery_eq_nil_iff {anyCase : Bool} {query : Text} :
    ofQuery anyCase query = [] ↔ ∀ c ∈ query, Text.isBlank c = true := by
  rw [ofQuery_eq, List.map_eq_nil_iff, Segment.solid_eq_nil_iff, ← Text.trim_eq_nil_iff]
  constructor
  · intro spaces
    cases trimmed : Text.trim query with
    | nil => rfl
    | cons c rest =>
        rw [trimmed] at spaces
        have space : c = ' ' := spaces c List.mem_cons_self
        have first : (Text.trim query).head? = some c := by rw [trimmed]; rfl
        have notBlank := (Text.tight_trim query).start c first
        rw [space] at notBlank
        exact absurd notBlank (by decide)
  · intro empty
    simp [empty]

end Token
end BoolQuery
