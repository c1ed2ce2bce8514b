import BoolQuery.Diagnostic
import BoolQuery.Proofs.Placement

/-!
# Where the caret stands

An offset need not be where a character starts, or lie within the query at all. The place that it
is taken to mean is found on the bytes of the query: from the offset, or from the end of the query
if that comes first, one steps back until the bytes can be cut (`Text.stepBack?`). `Text.Fills` says
what is in front of that place: as many whole characters as there is room for. A cut there is the
only one within reach (`Text.Fills.cutsAt_iff`), so stepping back ends at it, and the columns before
the caret are these characters (`Text.Fills.column`). How the caret moves with the offset is read
off the same fact (`Diagnostic.caret_roundsDown`).
-/

namespace BoolQuery

namespace Text

/-- Whether a byte is the first one of a character. The further bytes of a character are those from
`0x80` to `0xBF`. -/
def startsChar (byte : UInt8) : Bool :=
  byte < 0x80 || 0xC0 ≤ byte

/-- Whether bytes can be cut at an index: at their start, at their end, and where a character
starts. -/
def cutsAt (bytes : List UInt8) (index : Nat) : Bool :=
  index == 0 || match bytes[index]? with
    | none => index == bytes.length
    | some byte => startsChar byte

/-- Step back from an index, byte by byte, to one where the bytes can be cut. There is no result if
a step leads below zero. -/
def stepBack? (bytes : List UInt8) : Nat → Option Nat
  | 0 => if cutsAt bytes 0 then some 0 else none
  | index + 1 => if cutsAt bytes (index + 1) then some (index + 1) else stepBack? bytes index

/-- The number of characters of a text that lie entirely within its first `bytes` bytes, where a
character ends with the last byte of the characters up to it. -/
def charsWithin (text : Text) (bytes : Nat) : Nat :=
  (List.range text.length).countP fun index => byteLength (text.take (index + 1)) ≤ bytes

/-- The further bytes of a character form an interval between the other bytes. -/
theorem startsChar_ofNat {n : Nat} (byte : n < 256) :
    startsChar (UInt8.ofNat n) = true ↔ n < 0x80 ∨ 0xC0 ≤ n := by
  rw [startsChar, Bool.or_eq_true, decide_eq_true_iff, decide_eq_true_iff,
    UInt8.lt_iff_toNat_lt, UInt8.le_iff_toNat_le, UInt8.toNat_ofNat_of_lt' byte]
  rfl

/-- The first byte of a character is told from its further bytes. -/
theorem exists_utf8EncodeChar (c : Char) : ∃ first more, String.utf8EncodeChar c = first :: more ∧
    startsChar first = true ∧ ∀ byte ∈ more, ¬startsChar byte = true := by
  have further (n : Nat) : ¬startsChar (UInt8.ofNat (n % 64 + 128)) = true := by
    rw [startsChar_ofNat (by omega)]
    omega
  unfold String.utf8EncodeChar
  dsimp only
  split
  · exact ⟨_, _, rfl, (startsChar_ofNat (by omega)).mpr (by omega), nofun⟩
  · split
    · refine ⟨_, _, rfl, (startsChar_ofNat (by omega)).mpr (by omega), ?_⟩
      simp only [List.forall_mem_cons]
      exact ⟨further _, nofun⟩
    · split
      · refine ⟨_, _, rfl, (startsChar_ofNat (by omega)).mpr (by omega), ?_⟩
        simp only [List.forall_mem_cons]
        exact ⟨further _, further _, nofun⟩
      · refine ⟨_, _, rfl, (startsChar_ofNat (by omega)).mpr (by omega), ?_⟩
        simp only [List.forall_mem_cons]
        exact ⟨further _, further _, further _, nofun⟩

/-- The first part of a text holds all characters that fit into a number of bytes: the next one
would be too much. -/
structure Fills (text : Text) (bytes : Nat) (front back : Text) : Prop where
  cut : text = front ++ back
  fits : byteLength front ≤ bytes
  full : ∀ c rest, back = c :: rest → bytes < byteLength front + c.utf8Size

/-- Every text has a first part that fills a given number of bytes. -/
theorem exists_fills (text : Text) (bytes : Nat) : ∃ front back, Fills text bytes front back := by
  induction text generalizing bytes with
  | nil => exact ⟨[], [], rfl, Nat.zero_le _, nofun⟩
  | cons c rest inductionHypothesis =>
      by_cases fits : c.utf8Size ≤ bytes
      · obtain ⟨front, back, filled⟩ := inductionHypothesis (bytes - c.utf8Size)
        refine ⟨c :: front, back, ?_, ?_, fun d more next => ?_⟩
        · rw [filled.cut, List.cons_append]
        · have room := filled.fits
          rw [byteLength_cons]
          omega
        · have tooMuch := filled.full d more next
          rw [byteLength_cons]
          omega
      · refine ⟨[], c :: rest, rfl, Nat.zero_le _, fun d more next => ?_⟩
        obtain ⟨rfl, _⟩ := List.cons.inj next
        rw [byteLength_nil]
        omega

namespace Fills

variable {text front back : Text} {bytes : Nat}

/-- A part of a text fills its own bytes. -/
theorem upTo (front back : Text) : Fills (front ++ back) (byteLength front) front back where
  cut := rfl
  fits := Nat.le_refl _
  full := fun c _ _ => Nat.lt_add_of_pos_right c.utf8Size_pos

/-- Whole characters need room for all their bytes: within a character nothing is gained. -/
theorem within (before : Text) (c : Char) (after : Text) (reached : byteLength before ≤ bytes)
    (short : bytes < byteLength before + c.utf8Size) :
    Fills (before ++ c :: after) bytes before (c :: after) where
  cut := rfl
  fits := reached
  full := by
    intro d more next
    obtain ⟨rfl, _⟩ := List.cons.inj next
    exact short

/-- What lies behind the end of the text is no room for characters. -/
theorem clamp (fills : Fills text bytes front back) :
    Fills text (min bytes (byteLength text)) front back where
  cut := fills.cut
  fits := by
    have fits := fills.fits
    rw [fills.cut, byteLength_append]
    omega
  full := by
    intro c rest next
    have full := fills.full c rest next
    omega

/-- Bytes can be cut within reach of the first part only where it ends. -/
theorem cutsAt_iff (fills : Fills text bytes front back) :
    cutsAt (utf8 text) bytes = true ↔ bytes = byteLength front := by
  obtain ⟨rfl, fits, full⟩ := fills
  rw [cutsAt, Bool.or_eq_true, beq_iff_eq, utf8_append,
    List.getElem?_append_right (by rw [length_utf8]; exact fits), length_utf8]
  cases back with
  | nil =>
      change bytes = 0 ∨ (bytes == (utf8 front ++ []).length) = true ↔ _
      rw [List.append_nil, length_utf8, beq_iff_eq]
      omega
  | cons c rest =>
      have short := full c rest rfl
      obtain ⟨first, more, encoded, starts, further⟩ := exists_utf8EncodeChar c
      have size : (first :: more).length = c.utf8Size := by
        rw [← encoded, String.length_utf8EncodeChar]
      have bytesOf : utf8 (c :: rest) = first :: (more ++ utf8 rest) := by
        rw [utf8, List.flatMap_cons, encoded]
        rfl
      rw [bytesOf]
      rcases Nat.eq_zero_or_pos (bytes - byteLength front) with start | inside
      · rw [start]
        exact iff_of_true (.inr starts) (by omega)
      -- The next character does not fit, so what is reached behind the front lies within it.
      · obtain ⟨index, here⟩ := Nat.exists_eq_succ_of_ne_zero (Nat.ne_of_gt inside)
        have bound : index < more.length := by
          rw [List.length_cons] at size
          omega
        rw [here, List.getElem?_cons_succ, List.getElem?_append_left bound,
          List.getElem?_eq_getElem bound]
        exact iff_of_false (not_or.mpr ⟨by omega, further _ (List.getElem_mem bound)⟩) (by omega)

/-- Stepping back ends where the first part does. -/
theorem stepBack?_eq (fills : Fills text bytes front back) :
    stepBack? (utf8 text) bytes = some (byteLength front) := by
  induction bytes with
  | zero =>
      rw [stepBack?, if_pos (by rfl), Nat.le_zero.mp fills.fits]
  | succ bytes inductionHypothesis =>
      rw [stepBack?]
      by_cases ends : bytes + 1 = byteLength front
      · rw [if_pos (fills.cutsAt_iff.mpr ends), ends]
      · have fits := fills.fits
        rw [if_neg fun cuts => ends (fills.cutsAt_iff.mp cuts)]
        refine inductionHypothesis ⟨fills.cut, by omega, fun c rest next => ?_⟩
        exact Nat.lt_of_succ_lt (fills.full c rest next)

/-- The bytes up to where the first part ends are its bytes. -/
theorem take_utf8 (fills : Fills text bytes front back) :
    (utf8 text).take (byteLength front) = utf8 front := by
  rw [fills.cut, utf8_append, List.take_left' (length_utf8 front)]

/-- The characters within the bytes are those of the first part. -/
theorem charsWithin_eq (fills : Fills text bytes front back) :
    charsWithin text bytes = front.length := by
  obtain ⟨rfl, fits, full⟩ := fills
  have inFront : ∀ index ∈ List.range front.length,
      decide (byteLength ((front ++ back).take (index + 1)) ≤ bytes) = true := by
    intro index member
    have bound := List.mem_range.mp member
    rw [List.take_append_of_le_length bound, decide_eq_true_iff]
    have part := byteLength_append (front.take (index + 1)) (front.drop (index + 1))
    rw [List.take_append_drop] at part
    exact (Nat.le.intro part.symm).trans fits
  have inBack : ∀ index ∈ (List.range back.length).map (front.length + ·),
      ¬decide (byteLength ((front ++ back).take (index + 1)) ≤ bytes) = true := by
    intro index member
    obtain ⟨further, member, rfl⟩ := List.mem_map.mp member
    cases back with
    | nil => cases member
    | cons c rest =>
        have short := full c rest rfl
        rw [Nat.add_assoc, List.take_length_add_append, List.take_succ_cons, byteLength_append,
          byteLength_cons, decide_eq_true_iff]
        omega
  rw [charsWithin, List.length_append, List.range_add, List.countP_append,
    List.countP_eq_length.mpr inFront, List.countP_eq_zero.mpr inBack, List.length_range,
    Nat.add_zero]

/-- The columns up to an offset are the characters of the first part. -/
theorem column (fills : Fills text bytes front back) :
    Diagnostic.column text bytes = front.length := by
  obtain ⟨rfl, fits, full⟩ := fills
  induction front generalizing bytes with
  | nil =>
      cases back with
      | nil => rfl
      | cons c rest =>
          have short := full c rest rfl
          rw [byteLength_nil, Nat.zero_add] at short
          exact if_neg (Nat.not_le.mpr short)
  | cons c front inductionHypothesis =>
      rw [byteLength_cons] at fits full
      rw [List.cons_append, Diagnostic.column, if_pos (by omega), List.length_cons]
      congr 1
      refine inductionHypothesis (by omega) fun d rest next => ?_
      have short := full d rest next
      omega

end Fills

/-- No more characters lie within some bytes than the text has. -/
theorem charsWithin_le_length (text : Text) (bytes : Nat) :
    charsWithin text bytes ≤ text.length := by
  rw [charsWithin]
  exact List.countP_le_length.trans_eq List.length_range

/-- More bytes hold at least as many characters. -/
theorem charsWithin_mono (text : Text) {bytes more : Nat} (le : bytes ≤ more) :
    charsWithin text bytes ≤ charsWithin text more := by
  refine List.countP_mono_left fun index _ fits => ?_
  rw [decide_eq_true_iff] at fits ⊢
  exact fits.trans le

end Text

namespace Diagnostic

open Text

/-- The columns before the caret are the characters that end before the offset or before the end of
the query, whichever comes first. -/
theorem column_eq_charsWithin (query : Text) (offset : Nat) :
    column query offset = charsWithin query (min offset (byteLength query)) := by
  obtain ⟨front, back, fills⟩ := exists_fills query offset
  rw [fills.column, fills.clamp.charsWithin_eq]

/-- Anywhere within a character the columns are the characters before it. -/
theorem column_within (before : Text) (c : Char) (after : Text) {offset : Nat}
    (reached : byteLength before ≤ offset) (short : offset < byteLength (before ++ [c])) :
    column (before ++ c :: after) offset = before.length := by
  rw [byteLength_append, byteLength_cons, byteLength_nil, Nat.add_zero] at short
  exact (Fills.within before c after reached short).column

/-- A diagnostic shows its caret wherever its offset lies. Stepping back through the bytes of the
query from the offset, or from their end if that comes first, ends at a place that the bytes of
whole characters fill. The caret stands behind the margin and one space for each of them, and they
are the characters that end by then. So there are no more of them than the query has, a later
offset does not have fewer, offsets within one character have the same, and the offset behind that
character has more. -/
theorem caret_roundsDown (defect : Defect) (query : Text) (offset : Nat) :
    (∃ front back, query = front ++ back ∧
      stepBack? (utf8 query) (min offset (utf8 query).length) = some (utf8 front).length ∧
      (utf8 query).take (utf8 front).length = utf8 front ∧ front.length = column query offset) ∧
    render ⟨defect, some offset, some query⟩ =
      line ("query syntax error: ".toList ++ defect.message) ++ line ("  ".toList ++ query) ++
        line ("  ".toList ++ List.replicate (column query offset) ' ' ++ ['^']) ++
        (defect.hint?.map ("hint: ".toList ++ ·)).getD [] ∧
    column query offset = charsWithin query (min offset (utf8 query).length) ∧
    column query offset ≤ query.length ∧
    (∀ later, offset ≤ later → column query offset ≤ column query later) ∧
    ∀ before c after, query = before ++ c :: after →
      (utf8 before).length ≤ offset → offset < (utf8 (before ++ [c])).length →
      column query offset = before.length ∧
        column query offset < column query (utf8 (before ++ [c])).length := by
  simp only [length_utf8]
  refine ⟨?_, ?_, column_eq_charsWithin query offset, ?_, fun later le => ?_, ?_⟩
  · obtain ⟨front, back, fills⟩ := exists_fills query offset
    exact ⟨front, back, fills.cut, fills.clamp.stepBack?_eq, fills.take_utf8, fills.column.symm⟩
  · simp only [render, context, caretLine, List.append_assoc]
    cases defect.hint? <;> rfl
  · rw [column_eq_charsWithin]
    exact charsWithin_le_length query _
  · rw [column_eq_charsWithin, column_eq_charsWithin]
    exact charsWithin_mono query (by omega)
  · rintro before c after rfl reached short
    have here := column_within before c after reached short
    have behind := (Fills.upTo (before ++ [c]) after).column
    rw [List.append_assoc, List.singleton_append, List.length_append] at behind
    rw [behind, here]
    exact ⟨rfl, Nat.lt_succ_self _⟩

/-- The second byte of an accented letter counts as its first; the end of the query lies behind. -/
theorem caret_roundsDown_of_accent :
    let query := "caf\u00e9 )".toList
    query = "caf".toList ++ '\u00e9' :: " )".toList ∧ (utf8 "caf".toList).length ≤ 4 ∧
      4 < (utf8 ("caf".toList ++ ['\u00e9'])).length ∧ 4 ≤ 99 ∧ column query 4 = 3 ∧
      column query 4 < column query 5 ∧ column query 4 ≤ column query 99 := by
  intro query
  obtain ⟨_, _, _, _, later, within⟩ := caret_roundsDown .unmatchedClose query 4
  have cut : query = "caf".toList ++ '\u00e9' :: " )".toList := rfl
  have reached : (utf8 "caf".toList).length ≤ 4 := by decide
  have short : 4 < (utf8 ("caf".toList ++ ['\u00e9'])).length := by decide
  obtain ⟨here, behind⟩ := within _ _ _ cut reached short
  exact ⟨cut, reached, short, by decide, here, behind, later 99 (by decide)⟩

end Diagnostic
end BoolQuery
