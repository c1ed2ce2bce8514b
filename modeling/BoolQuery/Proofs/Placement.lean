import BoolQuery.Proofs.Writing

/-!
# Where tokens stand in a query

A token occupies the bytes of the query from its offset on, as many as its text has. `Tiles` says
how segments make up a text: they follow each other with nothing but spaces in between. This is what
cutting a text produces (`tiles_cut`), so the ranges of tokens hold what the tokens are read from,
come one behind the other, and leave out only spaces and the blank characters at the two ends of the
query (`ofQuery_ranges`).
-/

namespace BoolQuery

namespace Text

/-- The bytes of the UTF-8 form of a text. -/
def utf8 (text : Text) : List UInt8 :=
  text.flatMap String.utf8EncodeChar

/-- A byte offset at which a character of the text starts, or at which the text ends. -/
def IsBoundary (text : Text) (offset : Nat) : Prop :=
  ∃ front back, text = front ++ back ∧ byteLength front = offset

/-- Texts are encoded one behind the other. -/
@[simp] theorem utf8_append (front back : Text) : utf8 (front ++ back) = utf8 front ++ utf8 back :=
  List.flatMap_append

/-- The length in bytes is the number of bytes. -/
@[simp] theorem length_utf8 (text : Text) : (utf8 text).length = byteLength text := by
  induction text with
  | nil => rfl
  | cons c rest inductionHypothesis =>
      have cut : utf8 (c :: rest) = String.utf8EncodeChar c ++ utf8 rest := List.flatMap_cons
      rw [cut, List.length_append, inductionHypothesis, String.length_utf8EncodeChar,
        byteLength_cons]

/-- The bytes of a part of a text stand behind those of what comes before it. -/
theorem take_drop_utf8 (before word after : Text) :
    ((utf8 (before ++ word ++ after)).drop (byteLength before)).take (byteLength word) =
      utf8 word := by
  rw [List.append_assoc, utf8_append, utf8_append,
    List.drop_left' (length_utf8 before), List.take_left' (length_utf8 word)]

/-- Every character takes a byte. -/
theorem byteLength_pos {text : Text} (filled : text ≠ []) : 0 < byteLength text := by
  cases text with
  | nil => exact absurd rfl filled
  | cons c rest =>
      have size := c.utf8Size_pos
      rw [byteLength_cons]
      omega

/-- The letters `a` to `z` take one byte each, in either case. -/
theorem byteLength_of_isAlpha {word : Text} (letters : ∀ c ∈ word, c.isAlpha = true) :
    byteLength word = word.length := by
  induction word with
  | nil => rfl
  | cons c word inductionHypothesis =>
      obtain ⟨letter, rest⟩ := List.forall_mem_cons.mp letters
      have size : c.utf8Size = 1 := by
        rw [Char.utf8Size_eq_one_iff, UInt32.le_iff_toNat_le]
        have code := toNat_of_isAlpha letter
        have bound : (127 : UInt32).toNat = 127 := rfl
        rw [Char.toNat_val]
        omega
      rw [byteLength_cons, size, inductionHypothesis rest, List.length_cons, Nat.add_comm]

/-- A character of two joined texts stands in one of them. -/
theorem mem_of_append_eq {front back before after : Text} {c : Char}
    (joined : front ++ back = before ++ c :: after) :
    (∃ more, front = before ++ c :: more) ∨
      ∃ skipped, before = front ++ skipped ∧ back = skipped ++ c :: after := by
  rcases List.append_eq_append_iff.mp joined with ⟨skipped, rfl, rest⟩ | ⟨more, rfl, rest⟩
  · exact .inr ⟨skipped, rfl, rest⟩
  · cases more with
    | nil => exact .inr ⟨[], by simp, rest.symm⟩
    | cons d more =>
        obtain ⟨rfl, _⟩ := List.cons.inj rest
        exact .inl ⟨more, rfl⟩

end Text

namespace Segment

/-- Segments that make up a text from a byte offset on, with nothing but spaces between
neighbours. -/
inductive Tiles : Nat → Text → List Segment → Prop where
  | last (offset text) : Tiles offset text [⟨offset, text⟩]
  | next {offset text gap rest segments} (spaces : ∀ c ∈ gap, c = ' ')
      (later : Tiles (offset + Text.byteLength (text ++ gap)) rest segments) :
      Tiles offset (text ++ gap ++ rest) (⟨offset, text⟩ :: segments)

/-- The byte offset behind a segment. -/
def stop (segment : Segment) : Nat :=
  segment.offset + Text.byteLength segment.text

variable {offset : Nat} {c : Char} {text : Text} {segments : List Segment}

/-- Segments that tile a text tile it with one more character in front, if this joins the first of
them. -/
theorem Tiles.extendFirst (tiles : Tiles (offset + c.utf8Size) text segments) :
    Tiles offset (c :: text) (Segment.extendFirst offset c segments) := by
  cases tiles with
  | last => exact .last offset (c :: text)
  | @next _ text gap rest segments spaces later =>
      rw [Nat.add_assoc, ← Text.byteLength_cons, ← List.cons_append] at later
      exact later.next spaces

/-- Cutting a text yields segments that make it up. -/
theorem tiles_cut (offset : Nat) (text : Text) : Tiles offset text (cut offset text) := by
  induction text generalizing offset with
  | nil => exact .last offset []
  | cons c rest inductionHypothesis =>
      have following := inductionHypothesis (offset + c.utf8Size)
      by_cases space : c = ' '
      · subst space
        exact @Tiles.next offset [] [' '] rest _ (by simp) following
      by_cases opens : c = '('
      · subst opens
        exact @Tiles.next offset ['('] [] rest _ (by simp) following
      by_cases closes : c = ')'
      · subst closes
        exact @Tiles.next offset [] [] _ _ (by simp) following.extendFirst
      · rw [cut_plain ⟨space, opens, closes⟩]
        exact following.extendFirst

namespace Tiles

/-- A segment is the part of the text that starts at its offset. -/
theorem exists_cut (tiles : Tiles offset text segments) {segment : Segment}
    (member : segment ∈ segments) :
    ∃ before after, text = before ++ segment.text ++ after ∧
      segment.offset = offset + Text.byteLength before := by
  induction tiles with
  | last offset text =>
      rw [List.mem_singleton.mp member]
      exact ⟨[], [], by simp, rfl⟩
  | @next offset text gap rest segments _ _ inductionHypothesis =>
      rcases List.mem_cons.mp member with rfl | later
      · exact ⟨[], gap ++ rest, by simp, rfl⟩
      · obtain ⟨before, after, rfl, starts⟩ := inductionHypothesis later
        refine ⟨text ++ gap ++ before, after, by simp, ?_⟩
        rw [starts, Text.byteLength_append _ before, Nat.add_assoc]

/-- Segments stand in the order of the text and do not overlap. -/
theorem ordered (tiles : Tiles offset text segments) :
    segments.Pairwise fun earlier later => earlier.stop ≤ later.offset := by
  induction tiles with
  | last offset text => exact List.pairwise_singleton _ _
  | @next offset text gap rest segments _ later inductionHypothesis =>
      refine List.pairwise_cons.mpr ⟨fun segment member => ?_, inductionHypothesis⟩
      obtain ⟨before, _, _, starts⟩ := later.exists_cut member
      change offset + Text.byteLength text ≤ segment.offset
      rw [starts, Text.byteLength_append]
      omega

/-- Every character but a space stands in a segment. -/
theorem covered (tiles : Tiles offset text segments) {before after : Text}
    (joined : text = before ++ c :: after) (notSpace : c ≠ ' ') :
    ∃ segment ∈ segments, segment.offset ≤ offset + Text.byteLength before ∧
      offset + Text.byteLength before < segment.stop := by
  have inside : ∀ {offset : Nat} {before front more : Text}, front = before ++ c :: more →
      offset ≤ offset + Text.byteLength before ∧
        offset + Text.byteLength before < Segment.stop ⟨offset, front⟩ := by
    rintro offset before front more rfl
    have size := c.utf8Size_pos
    simp only [stop, Text.byteLength_append, Text.byteLength_cons]
    omega
  induction tiles generalizing before with
  | last offset text => exact ⟨_, List.mem_singleton_self _, inside joined⟩
  | @next offset text gap rest segments spaces _ inductionHypothesis =>
      rcases Text.mem_of_append_eq joined with ⟨more, front⟩ | ⟨skipped, rfl, back⟩
      · rcases Text.mem_of_append_eq front with ⟨more, front⟩ | ⟨skipped, _, inGap⟩
        · exact ⟨_, List.mem_cons_self, inside front⟩
        · exact absurd (spaces c (by simp [inGap])) notSpace
      · obtain ⟨segment, member, starts, stops⟩ := inductionHypothesis back
        rw [Nat.add_assoc, ← Text.byteLength_append] at starts stops
        exact ⟨segment, List.mem_cons_of_mem _ member, starts, stops⟩

end Tiles

/-- Moving a text moves its segments. -/
theorem cut_add (distance offset : Nat) (text : Text) :
    cut (distance + offset) text =
      (cut offset text).map fun segment => ⟨distance + segment.offset, segment.text⟩ := by
  have extended : ∀ (offset : Nat) (c : Char) (segments : List Segment),
      extendFirst (distance + offset) c
          (segments.map fun segment => ⟨distance + segment.offset, segment.text⟩) =
        (extendFirst offset c segments).map
          fun segment => ⟨distance + segment.offset, segment.text⟩ := by
    intro offset c segments
    cases segments <;> rfl
  induction text generalizing offset with
  | nil => rfl
  | cons c rest inductionHypothesis =>
      simp only [cut, Nat.add_assoc, inductionHypothesis, extended]
      split
      · rfl
      split
      · rfl
      split <;> rfl

end Segment

namespace Token

variable {anyCase : Bool} {token : Token} {word : Text}

/-- A segment is one way to write the token that it is read as. -/
theorem spells_ofSegment (anyCase : Bool) (segment : Text) :
    (ofSegment anyCase segment).Spells anyCase segment := by
  unfold ofSegment
  split
  · assumption
  split
  · assumption
  split
  · next found => exact Operator.ofKeyword?_eq_some_iff.mp found
  · rfl

/-- All ways to write a token take the same number of bytes. -/
theorem Spells.byteLength_eq (spells : token.Spells anyCase word) :
    Text.byteLength word = Text.byteLength token.text := by
  cases token with
  | openParen | closeParen | term _ => exact congrArg Text.byteLength spells
  | operator op =>
      have sameLength : word.length = op.symbol.length := by
        cases anyCase with
        | true => rw [← show word.map Char.toUpper = op.symbol from spells, List.length_map]
        | false => exact congrArg List.length spells
      rw [Text.byteLength_of_isAlpha fun c => Operator.Spells.isAlpha spells, text,
        Text.byteLength_of_isAlpha fun c => Operator.isAlpha_of_mem_symbol, sameLength]

end Token

namespace PlacedToken

/-- The byte offset behind a token. -/
def stop (placed : PlacedToken) : Nat :=
  placed.offset + Text.byteLength placed.token.text

/-- A byte offset lies in the range of a token. -/
def Covers (placed : PlacedToken) (offset : Nat) : Prop :=
  placed.offset ≤ offset ∧ offset < placed.stop

/-- The range of a token lies in the query, starts and ends between characters, and holds the bytes
of a text that writes the token. -/
structure StandsIn (anyCase : Bool) (query : Text) (placed : PlacedToken) : Prop where
  filled : placed.offset < placed.stop
  inBounds : placed.stop ≤ Text.byteLength query
  starts : Text.IsBoundary query placed.offset
  stops : Text.IsBoundary query placed.stop
  bytes : ∃ word, placed.token.Spells anyCase word ∧
    ((Text.utf8 query).drop placed.offset).take (Text.byteLength placed.token.text) =
      Text.utf8 word

variable {anyCase : Bool} {query : Text} {placed other : PlacedToken}

/-- A word that spells a token stands in the query where it is cut out. -/
theorem StandsIn.of_cut {before word after : Text} (cut : query = before ++ word ++ after)
    (offset : Text.byteLength before = placed.offset) (filled : word ≠ [])
    (spells : placed.token.Spells anyCase word) : placed.StandsIn anyCase query := by
  have size := spells.byteLength_eq
  have stops : placed.stop = Text.byteLength (before ++ word) := by
    rw [stop, Text.byteLength_append, size, offset]
  subst cut
  constructor
  · have positive := Text.byteLength_pos filled
    rw [stop]
    omega
  · rw [stops, Text.byteLength_append _ after]
    omega
  · exact ⟨before, word ++ after, List.append_assoc .., offset⟩
  · exact ⟨before ++ word, after, rfl, stops.symm⟩
  · refine ⟨word, spells, ?_⟩
    rw [← offset, ← size]
    exact Text.take_drop_utf8 before word after

/-- Two tokens of a list whose ranges do not overlap cover an offset only if they are the same. -/
theorem eq_of_covers {tokens : List PlacedToken}
    (ordered : tokens.Pairwise fun earlier later => earlier.stop ≤ later.offset)
    (member : placed ∈ tokens) (otherMember : other ∈ tokens) {offset : Nat}
    (covers : placed.Covers offset) (otherCovers : other.Covers offset) : placed = other := by
  have apart : ∀ {earlier later : PlacedToken}, earlier.Covers offset → later.Covers offset →
      ¬ earlier.stop ≤ later.offset := by
    rintro earlier later ⟨_, stops⟩ ⟨starts, _⟩
    omega
  induction ordered with
  | nil => cases member
  | cons behind _ inductionHypothesis =>
      rcases List.mem_cons.mp member with rfl | later <;>
        rcases List.mem_cons.mp otherMember with rfl | otherLater
      · rfl
      · exact absurd (behind other otherLater) (apart covers otherCovers)
      · exact absurd (behind placed later) (apart otherCovers covers)
      · exact inductionHypothesis later otherLater

end PlacedToken

namespace Token

variable {anyCase : Bool} {query : Text} {placed : PlacedToken}

/-- A token is read from the part of the query that starts at its offset. -/
theorem exists_cut_of_mem_ofQuery (member : placed ∈ ofQuery anyCase query) :
    ∃ before word after, query = before ++ word ++ after ∧
      Text.byteLength before = placed.offset ∧ word ≠ [] ∧ placed.token.Spells anyCase word := by
  rw [ofQuery_eq] at member
  obtain ⟨segment, solid, rfl⟩ := List.mem_map.mp member
  obtain ⟨listed, filled⟩ := List.mem_filter.mp solid
  obtain ⟨before, after, body, starts⟩ := (Segment.tiles_cut _ _).exists_cut listed
  obtain ⟨ending, joined, _⟩ := Text.exists_takeWhile_append_trim query
  refine ⟨query.takeWhile Text.isBlank ++ before, segment.text, after ++ ending, ?_, ?_, ?_,
    spells_ofSegment anyCase segment.text⟩
  · rw [body] at joined
    simpa using joined
  · rw [Text.byteLength_append, starts]
  · simpa using filled

/-- The ranges of tokens stand in the order of the query and do not overlap. -/
theorem ofQuery_ordered (anyCase : Bool) (query : Text) :
    (ofQuery anyCase query).Pairwise fun earlier later => earlier.stop ≤ later.offset := by
  have sameStop : ∀ segment : Segment,
      PlacedToken.stop ⟨ofSegment anyCase segment.text, segment.offset⟩ = segment.stop := by
    intro segment
    rw [PlacedToken.stop, ← (spells_ofSegment anyCase segment.text).byteLength_eq, Segment.stop]
  rw [ofQuery_eq, List.pairwise_map]
  simp only [sameStop]
  exact (Segment.tiles_cut _ _).ordered.filter _

/-- A character outside the ranges of all tokens is a space or belongs to the blank characters at
one end of the query. -/
theorem blank_of_not_covers {before after : Text} {c : Char} (cut : query = before ++ c :: after)
    (outside : ∀ placed ∈ ofQuery anyCase query, ¬ placed.Covers (Text.byteLength before)) :
    c = ' ' ∨ (∀ d ∈ before ++ [c], Text.isBlank d = true) ∨
      ∀ d ∈ c :: after, Text.isBlank d = true := by
  obtain ⟨ending, joined, endingBlank⟩ := Text.exists_takeWhile_append_trim query
  have whole := joined.symm.trans cut
  rcases Text.mem_of_append_eq whole with ⟨more, front⟩ | ⟨skipped, rfl, back⟩
  · rcases Text.mem_of_append_eq front with ⟨more, start⟩ | ⟨skipped, rfl, body⟩
    · -- The character stands before the trimmed query.
      refine .inr (.inl fun d member => ?_)
      have leading : d ∈ query.takeWhile Text.isBlank := by
        rw [start, List.append_cons]
        exact List.mem_append_left more member
      exact Text.mem_takeWhile_isBlank leading
    · refine .inl (Classical.byContradiction fun notSpace => ?_)
      obtain ⟨segment, listed, starts, stops⟩ :=
        (Segment.tiles_cut (Text.byteLength (query.takeWhile Text.isBlank)) _).covered body notSpace
      have filled : segment.text ≠ [] := by
        intro empty
        simp only [Segment.stop, empty, Text.byteLength_nil] at stops
        omega
      refine outside ⟨ofSegment anyCase segment.text, segment.offset⟩ ?_ ⟨?_, ?_⟩
      · rw [ofQuery_eq]
        exact List.mem_map_of_mem (List.mem_filter.mpr ⟨listed, by simpa using filled⟩)
      · rwa [Text.byteLength_append]
      · rwa [PlacedToken.stop, ← (spells_ofSegment anyCase segment.text).byteLength_eq,
          Text.byteLength_append]
  · -- The character stands behind the trimmed query.
    refine .inr (.inr fun d member => endingBlank d ?_)
    rw [back]
    exact List.mem_append_right _ member

/-- Blank characters before a query move its tokens and change nothing else. -/
theorem ofQuery_blank_append (anyCase : Bool) {blank : Text}
    (blankOnly : ∀ c ∈ blank, Text.isBlank c = true) (query : Text) :
    ofQuery anyCase (blank ++ query) = (ofQuery anyCase query).map
      fun placed => ⟨placed.token, Text.byteLength blank + placed.offset⟩ := by
  have sameBody : Text.trim (blank ++ query) = Text.trim query := by
    obtain ⟨before, after, joined, beforeBlank, afterBlank⟩ := Text.exists_trim query
    have bothBlank : ∀ c ∈ blank ++ before, Text.isBlank c = true := fun c member =>
      (List.mem_append.mp member).elim (blankOnly c) (beforeBlank c)
    have regrouped : blank ++ query = blank ++ before ++ Text.trim query ++ after := by
      rw [List.append_assoc, List.append_assoc, ← List.append_assoc before, ← joined]
    rw [regrouped]
    exact Text.trim_append (Text.tight_trim query) _ after bothBlank afterBlank
  rw [ofQuery_eq, ofQuery_eq, sameBody, List.takeWhile_append_of_pos blankOnly,
    Text.byteLength_append, Segment.solid, Segment.solid, Segment.cut_add, List.filter_map,
    List.map_map, List.map_map]
  rfl

/-- Every token of a query stands in it, and the ranges of tokens follow each other without
overlapping. What lies outside all of them is a space or belongs to the blank characters at one end
of the query. Further blank characters before the query move all tokens by their length in bytes
and change nothing else. -/
theorem ofQuery_ranges (anyCase : Bool) (query : Text) :
    (∀ placed ∈ ofQuery anyCase query, placed.StandsIn anyCase query) ∧
    ((ofQuery anyCase query).Pairwise fun earlier later => earlier.stop ≤ later.offset) ∧
    (∀ before c after, query = before ++ c :: after →
      (∀ placed ∈ ofQuery anyCase query, ¬ placed.Covers (Text.byteLength before)) →
      c = ' ' ∨ (∀ d ∈ before ++ [c], Text.isBlank d = true) ∨
        ∀ d ∈ c :: after, Text.isBlank d = true) ∧
    ∀ blank, (∀ c ∈ blank, Text.isBlank c = true) →
      ofQuery anyCase (blank ++ query) = (ofQuery anyCase query).map
        fun placed => ⟨placed.token, Text.byteLength blank + placed.offset⟩ := by
  refine ⟨fun placed member => ?_, ofQuery_ordered anyCase query,
    fun before c after => blank_of_not_covers,
    fun blank blankOnly => ofQuery_blank_append anyCase blankOnly query⟩
  obtain ⟨before, word, after, cut, offset, filled, spells⟩ := exists_cut_of_mem_ofQuery member
  exact .of_cut cut offset filled spells

example : ofQuery true "\u3000é and  (b".toList =
    [⟨.term ['é'], 3⟩, ⟨.operator .and, 6⟩, ⟨.openParen, 11⟩, ⟨.term ['b'], 12⟩] := by
  decide +kernel

end Token
end BoolQuery
