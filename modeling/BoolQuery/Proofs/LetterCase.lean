import BoolQuery.Proofs.Keyword
import BoolQuery.Proofs.Postfix.Defects
import BoolQuery.Proofs.Postfix.Renaming
import BoolQuery.Proofs.Text.LowerCase

/-!
# Conversion without regard to the case of letters

Lowering the letters `A` to `Z` of a query, and nothing else, changes neither where it is cut nor
what its segments stand for when keywords may be of either case: it lowers these letters within the
terms (`ofQuery_foldAscii`). Terms are lower-cased before they are normalized. Lower-casing looks
at the characters around a capital sigma, but the letters count as cased in both cases, so it cannot
tell either (`lower_foldAscii`). Queries that differ only in the case of letters have one lowered
form, which ties their conversions together (`toPostfix_ignoringCase`).
-/

namespace BoolQuery

namespace Text

variable {text : Text}

/-- What is seen of every character is the same in lower case if this holds of the letters. -/
theorem view_toLower {α : Type} {view : Char → α}
    (letters : ∀ n < 26, view (Char.ofNat (0x61 + n)) = view (Char.ofNat (0x41 + n))) (c : Char) :
    view c.toLower = view c := by
  by_cases capital : c.isUpper = true
  · obtain ⟨atLeast, atMost⟩ := isUpper_iff.mp capital
    have letter := letters (c.toNat - 0x41) (by omega)
    have lowered : 0x61 + (c.toNat - 0x41) = c.toNat + 32 := by omega
    have itself : 0x41 + (c.toNat - 0x41) = c.toNat := by omega
    rw [lowered, itself, Char.ofNat_toNat] at letter
    rw [Char.toLower_eq_of_isUpper capital, letter]
  · rw [Char.toLower_eq_of_not_isUpper capital]

/-- Letters of either case take the same number of bytes. -/
theorem utf8Size_toLower (c : Char) : c.toLower.utf8Size = c.utf8Size :=
  view_toLower (by decide +kernel) c

/-- Folding makes no character blank and no blank character visible. -/
theorem isBlank_toLower (c : Char) : isBlank c.toLower = isBlank c :=
  view_toLower (by decide +kernel) c

/-- Folding keeps whether a character has a case. -/
theorem isCased_toLower (c : Char) : isCased c.toLower = isCased c :=
  view_toLower (by decide +kernel) c

/-- Folding keeps whether a character is ignored between cased ones. -/
theorem isCaseIgnorable_toLower (c : Char) : isCaseIgnorable c.toLower = isCaseIgnorable c :=
  view_toLower (by decide +kernel) c

/-- A folded character has the lower-case form of the character itself. -/
theorem lowerChar_toLower (c : Char) : lowerChar c.toLower = lowerChar c :=
  view_toLower (by decide +kernel) c

/-- No other character becomes one that is not a letter. -/
theorem toLower_eq_iff {c d : Char} (caseless : d.isAlpha = false) : c.toLower = d ↔ c = d := by
  constructor
  · rintro rfl
    rw [Char.isAlpha_toLower_eq_isAlpha, Char.isAlpha, Bool.or_eq_false_iff] at caseless
    exact (Char.toLower_eq_of_not_isUpper (by simp [caseless.1])).symm
  · rintro rfl
    rw [Char.isAlpha, Bool.or_eq_false_iff] at caseless
    exact Char.toLower_eq_of_not_isUpper (by simp [caseless.1])

/-- Folding for the second time changes nothing. -/
theorem foldAscii_foldAscii (text : Text) : foldAscii (foldAscii text) = foldAscii text := by
  simp [foldAscii]

/-- What folds to a single character that is no letter is this character. -/
theorem foldAscii_eq_singleton_iff {d : Char} (caseless : d.isAlpha = false) :
    foldAscii text = [d] ↔ text = [d] := by
  cases text with
  | nil => simp [foldAscii]
  | cons c rest => simp [foldAscii, toLower_eq_iff caseless]

/-- Folding keeps the length in bytes, so it keeps offsets. -/
theorem byteLength_foldAscii (text : Text) : byteLength (foldAscii text) = byteLength text := by
  induction text with
  | nil => rfl
  | cons c rest inductionHypothesis =>
      change byteLength (c.toLower :: foldAscii rest) = _
      rw [byteLength_cons, byteLength_cons, utf8Size_toLower, inductionHypothesis]

/-- Folding keeps the blank characters at the start. -/
theorem takeWhile_isBlank_foldAscii (text : Text) :
    (foldAscii text).takeWhile isBlank = foldAscii (text.takeWhile isBlank) := by
  have same : isBlank ∘ Char.toLower = isBlank := funext isBlank_toLower
  rw [foldAscii, List.takeWhile_map, same]
  rfl

/-- Trimming and folding can be exchanged. -/
theorem trim_foldAscii (text : Text) : trim (foldAscii text) = foldAscii (trim text) := by
  have same : isBlank ∘ Char.toLower = isBlank := funext isBlank_toLower
  simp only [trim, trimEnd, trimStart, foldAscii, List.dropWhile_map, ← List.map_reverse, same]

/-- Folding keeps whether the next character that counts has a case. -/
theorem meetsCased_foldAscii (text : Text) : meetsCased (foldAscii text) = meetsCased text := by
  have same : isCaseIgnorable ∘ Char.toLower = isCaseIgnorable := funext isCaseIgnorable_toLower
  rw [meetsCased, meetsCased, foldAscii, List.dropWhile_map, same]
  cases text.dropWhile isCaseIgnorable with
  | nil => rfl
  | cons c rest => exact isCased_toLower c

/-- Lower-casing forgets folding, both of a text and of what stands before it, on which the form of
a sigma depends. -/
theorem lowerAfter_foldAscii (before text : Text) :
    lowerAfter (foldAscii before) (foldAscii text) = lowerAfter before text := by
  induction text generalizing before with
  | nil => rfl
  | cons c rest inductionHypothesis =>
      have following := inductionHypothesis (c :: before)
      have sigma : c.toLower = 'Σ' ↔ c = 'Σ' := toLower_eq_iff (by decide)
      change lowerAfter (foldAscii before) (c.toLower :: foldAscii rest) = _
      change lowerAfter (c.toLower :: foldAscii before) (foldAscii rest) = _ at following
      rw [lowerAfter, lowerAfter, following]
      simp only [sigma, meetsCased_foldAscii, lowerChar_toLower]

/-- Lower-casing cannot tell in which case the letters were. -/
theorem lower_foldAscii (text : Text) : lower (foldAscii text) = lower text :=
  lowerAfter_foldAscii [] text

end Text

namespace Segment

/-- A segment with the letters of its text in lower case. -/
def foldAscii (segment : Segment) : Segment :=
  ⟨segment.offset, Text.foldAscii segment.text⟩

/-- Segments can be folded before or after the first one is extended. -/
theorem extendFirst_foldAscii (offset : Nat) (c : Char) (segments : List Segment) :
    extendFirst offset c.toLower (segments.map foldAscii) =
      (extendFirst offset c segments).map foldAscii := by
  cases segments <;> rfl

/-- A folded text is cut at the same places as the text. -/
theorem cut_foldAscii (offset : Nat) (text : Text) :
    cut offset (Text.foldAscii text) = (cut offset text).map foldAscii := by
  induction text generalizing offset with
  | nil => rfl
  | cons c rest inductionHypothesis =>
      have space : c.toLower = ' ' ↔ c = ' ' := Text.toLower_eq_iff (by decide)
      have opens : c.toLower = '(' ↔ c = '(' := Text.toLower_eq_iff (by decide)
      have closes : c.toLower = ')' ↔ c = ')' := Text.toLower_eq_iff (by decide)
      change cut offset (c.toLower :: Text.foldAscii rest) = _
      rw [cut, cut, Text.utf8Size_toLower, inductionHypothesis]
      simp only [space, opens, closes, extendFirst_foldAscii]
      split
      · rfl
      · split
        · rfl
        · split <;> rfl

/-- The segments of a folded query are the folded segments of the query, at the same offsets. -/
theorem ofQuery_foldAscii (query : Text) :
    ofQuery (Text.foldAscii query) = (ofQuery query).map foldAscii := by
  rw [ofQuery, Text.takeWhile_isBlank_foldAscii, Text.byteLength_foldAscii, Text.trim_foldAscii,
    cut_foldAscii]
  rfl

end Segment

namespace Token

/-- Where the case of keywords does not matter, a folded segment makes the same token, apart from
the text of a term. -/
theorem ofSegment_foldAscii (segment : Text) :
    ofSegment true (Text.foldAscii segment) =
      (ofSegment true segment).mapText Text.foldAscii := by
  have keyword : Operator.ofKeyword? true (Text.foldAscii segment) =
      Operator.ofKeyword? true segment := by
    simp only [Operator.ofKeyword?, if_true, Text.equalIgnoringCase, Text.foldAscii_foldAscii]
  simp only [ofSegment, keyword, Text.foldAscii_eq_singleton_iff (d := '(') (by decide),
    Text.foldAscii_eq_singleton_iff (d := ')') (by decide)]
  split
  · rfl
  · split
    · rfl
    · split <;> rfl

/-- The tokens of a query with its letters in lower case are its tokens with the letters of their
terms in lower case. -/
theorem ofQuery_foldAscii (query : Text) :
    ofQuery true (Text.foldAscii query) =
      (ofQuery true query).map (PlacedToken.map Text.foldAscii id) := by
  have filled : (fun segment : Segment => !segment.text.isEmpty) ∘ Segment.foldAscii =
      fun segment => !segment.text.isEmpty := by
    funext segment
    simp [Segment.foldAscii, Text.foldAscii]
  rw [ofQuery, ofQuery, Segment.ofQuery_foldAscii, List.filter_map, filled, List.map_map,
    List.map_map]
  refine List.map_congr_left fun segment _ => ?_
  simp only [Function.comp_apply, Segment.foldAscii, ofSegment_foldAscii]
  rfl

end Token

namespace Conversion

/-- Renaming terms leaves the defects as they are. -/
theorem defects_map (rename : Text → Text) (tokens : List PlacedToken) :
    (ofTokens (tokens.map (PlacedToken.map rename id))).defects = (ofTokens tokens).defects := by
  have unmoved : Pending.move id = id := by
    funext entry
    cases entry <;> rfl
  have renamed := Progress.run_map rename id [] tokens
  rw [List.map_nil] at renamed
  simp [ofTokens, renamed, Progress.map, unmoved]

end Conversion

namespace Converter

variable (converter : Converter)

/-- A folded term is written like the term, since it is lowered first. -/
theorem writeTerm_foldAscii (text : Text) :
    converter.writeTerm (Text.foldAscii text) = converter.writeTerm text := by
  rw [writeTerm, writeTerm, Text.trim_foldAscii, Text.lower_foldAscii]

/-- The output of a conversion does not change when the terms are folded. -/
theorem write_foldAscii (tokens : List PlacedToken) :
    converter.write (Conversion.ofTokens (tokens.map (PlacedToken.map Text.foldAscii id))) =
      converter.write (Conversion.ofTokens tokens) := by
  rw [write, write, Conversion.write, Conversion.write, Conversion.slots_map, List.map_map]
  refine List.map_congr_left fun slot _ => ?_
  cases slot with
  | term text => exact converter.writeTerm_foldAscii text
  | operator op => rfl
  | unclosed => rfl

/-- Tokens with folded terms are converted to the same result in either mode. -/
theorem convertTokens_foldAscii (strict : Bool) (tokens : List PlacedToken) :
    converter.convertTokens strict (tokens.map (PlacedToken.map Text.foldAscii id)) =
      converter.convertTokens strict tokens := by
  rw [convertTokens, convertTokens, Conversion.defects_map, write_foldAscii]

variable {converter} {query other : Text}

/-- Queries that differ only in the case of letters have the same tokens once the letters of terms
are in lower case. -/
theorem map_tokens_eq (anyCase : converter.options.anyCase = true)
    (same : Text.equalIgnoringCase query other = true) :
    (converter.tokens query).map (PlacedToken.map Text.foldAscii id) =
      (converter.tokens other).map (PlacedToken.map Text.foldAscii id) := by
  have folded : Text.foldAscii query = Text.foldAscii other := by
    simpa [Text.equalIgnoringCase] using same
  rw [tokens, tokens, anyCase, ← Token.ofQuery_foldAscii, folded, Token.ofQuery_foldAscii]

/-- Two queries that differ in the case of ASCII letters only have tokens that convert alike. -/
theorem convertTokens_tokens_eq (anyCase : converter.options.anyCase = true)
    (same : Text.equalIgnoringCase query other = true) (strict : Bool) :
    converter.convertTokens strict (converter.tokens query) =
      converter.convertTokens strict (converter.tokens other) := by
  rw [← convertTokens_foldAscii, map_tokens_eq anyCase same, convertTokens_foldAscii]

/-- A converter that accepts keywords in either case makes no difference between queries that differ
at most in the case of the letters `a` to `z`. Their tokens are the same, each at the same offset,
but for the case of such letters within terms; their conversions are equal; and in strict mode both
have the same result, or both fail with the same defect at the same offset. -/
theorem toPostfix_ignoringCase (converter : Converter) (anyCase : converter.options.anyCase = true)
    (query other : Text) (same : Text.equalIgnoringCase query other = true) :
    List.Forall₂ (fun left right => left.offset = right.offset ∧
        left.token.mapText Text.foldAscii = right.token.mapText Text.foldAscii)
      (converter.tokens query) (converter.tokens other) ∧
    converter.toPostfix query = converter.toPostfix other ∧
    ((∃ output, converter.toPostfixStrict query = .ok output ∧
        converter.toPostfixStrict other = .ok output) ∨
      ∃ defect offset, converter.toPostfixStrict query = .error ⟨defect, offset, some query⟩ ∧
        converter.toPostfixStrict other = .error ⟨defect, offset, some other⟩) := by
  refine ⟨?_, ?_, ?_⟩
  · have mapped := map_tokens_eq anyCase same
    rw [← List.forall₂_eq_eq_eq, List.forall₂_map_left_iff, List.forall₂_map_right_iff] at mapped
    refine mapped.imp fun left right agree => ?_
    rw [PlacedToken.map, PlacedToken.map, PlacedToken.mk.injEq] at agree
    exact ⟨agree.2, agree.1⟩
  · have lenient := convertTokens_tokens_eq anyCase same false
    rw [convertTokens_lenient, convertTokens_lenient] at lenient
    exact Except.ok.inj lenient
  · rw [toPostfixStrict_eq, toPostfixStrict_eq, convertTokens_tokens_eq anyCase same]
    cases converter.convertTokens true (converter.tokens other) with
    | ok output => exact .inl ⟨output, rfl, rfl⟩
    | error diagnostic => exact .inr ⟨diagnostic.defect, diagnostic.offset, rfl, rfl⟩

/-- Beside a capital sigma the case of letters makes no difference, and keywords are recognized in
either case. The parenthesis that is reported stands behind a keyword and a sigma. -/
theorem toPostfix_ignoringCase_of_sigma :
    let converter : Converter := ⟨id, ⟨false, true⟩⟩
    let query : Text := "aΣ OR bΣc)"
    let other : Text := "AΣ or BΣC)"
    converter.options.anyCase = true ∧ Text.equalIgnoringCase query other = true ∧
    converter.toPostfix other = ["aς".toList, "bσc".toList, "OR".toList] ∧
    converter.toPostfix query = converter.toPostfix other ∧
    ∃ defect offset, converter.toPostfixStrict query = .error ⟨defect, offset, some query⟩ ∧
      converter.toPostfixStrict other = .error ⟨defect, offset, some other⟩ := by
  intro converter query other
  have same : Text.equalIgnoringCase query other = true := by decide +kernel
  obtain ⟨_, lenient, strict⟩ := toPostfix_ignoringCase converter rfl query other same
  refine ⟨rfl, same, by decide +kernel, lenient, ?_⟩
  have malformed : converter.toPostfixStrict query =
      .error ⟨.unmatchedClose, some 11, some query⟩ := by decide +kernel
  rcases strict with ⟨output, accepted, _⟩ | failed
  · rw [malformed] at accepted
    cases accepted
  · exact failed

end Converter
end BoolQuery
