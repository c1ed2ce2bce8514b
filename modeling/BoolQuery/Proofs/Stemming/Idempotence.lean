import BoolQuery.Proofs.Postfix.Accounting
import BoolQuery.Proofs.Text.Lowered

/-!
# Normal forms without stemming are final

A term that is trimmed and then lower-cased is settled (`settled_lower_trim`): trimming it again
changes nothing, and neither does lower-casing it again. A converter prepares terms in this way
before it normalizes them. So the stemmers of languages, which lower words character by character,
find nothing left to lower (`normalize_lower`), and the stemmer that does nothing but lower terms
may be applied as often as one likes (`convert_settles`).
-/

namespace BoolQuery

/-- A text that neither trimming nor lower-casing changes. -/
structure Text.Settled (text : Text) : Prop where
  trimmed : trim text = text
  lowered : lower text = text

/-- Trimming and then lower-casing a text settles it. -/
theorem Text.settled_lower_trim (text : Text) : Settled (lower (trim text)) where
  trimmed := trim_lower_trim text
  lowered := lower_lower (trim text)

/-- Stemmers find nothing left to lower in a lowered word. -/
theorem Stemmer.normalize_lower [SuppliedStems] (chosen : Language) (term : Text) :
    (language chosen).normalize (Text.lower term) =
      if Text.lower term = [] then [] else chosen.stem (Text.lower term) := by
  have folded := Text.foldEach_lower term
  cases lowered : Text.lower term with
  | nil => rfl
  | cons c rest =>
      rw [lowered] at folded
      rw [normalize, folded, if_neg (List.cons_ne_nil c rest)]
      exact List.cons_ne_nil c rest

namespace Converter

/-- Converters with the same options that write the same terms give the same answers. -/
theorem convert_congr {left right : Converter} (sameOptions : left.options = right.options)
    (sameTerms : ∀ text, left.writeTerm text = right.writeTerm text) (query : Text) :
    left.convert query = right.convert query := by
  have sameWrite : ∀ conversion, left.write conversion = right.write conversion := by
    intro conversion
    rw [write, write, funext sameTerms]
  simp only [convert_eq_convertTokens, convertTokens, tokens, sameOptions, sameWrite]

section Unstemmed

variable [SuppliedStems] (options : ConvertOptions)

/-- A term that is not stemmed is written as it was prepared. -/
theorem writeTerm_none (text : Text) :
    writeTerm ⟨Stemmer.none.normalize, options⟩ text = Text.lower (Text.trim text) :=
  Text.lower_lower (Text.trim text)

/-- Every element of a result is an operator or settled. -/
theorem settled_of_mem_toPostfix {query element : Text}
    (member : element ∈ toPostfix ⟨Stemmer.none.normalize, options⟩ query) :
    (∃ op : Operator, element = op.symbol) ∨ Text.Settled element := by
  refine (exists_of_mem_toPostfix member).imp_right ?_
  rintro (rfl | ⟨_, _, text, _, rfl⟩)
  · exact ⟨by decide, by decide +kernel⟩
  · rw [writeTerm_none]
    exact Text.settled_lower_trim text

end Unstemmed

/-- Without stemming, normal forms are final. Lowering a term for the second time changes nothing,
and neither does lowering its characters one by one. The stemmers of languages do the latter to the
words they get from a converter, so their rules see the words as the converter lowered them. Every
element of a result that is not stemmed is an operator, which no term is written like, or stays the
same when it is normalized again, when it is trimmed and lowered again, and when it is written again
like a term of a query. A converter that does either of the first two to every term once more
answers every query as before. -/
theorem convert_settles [SuppliedStems] :
    (∀ term : Text,
      Stemmer.none.normalize (Stemmer.none.normalize term) = Stemmer.none.normalize term ∧
      Text.foldEach (Stemmer.none.normalize term) = Stemmer.none.normalize term) ∧
    (∀ (chosen : Language) (options : ConvertOptions) (text : Text),
      let lowered := Text.lower (Text.trim text)
      Text.foldEach lowered = lowered ∧
      writeTerm ⟨(Stemmer.language chosen).normalize, options⟩ text =
        if lowered = [] then [] else chosen.stem lowered) ∧
    ∀ (options : ConvertOptions) (query : Text),
      let converter : Converter := ⟨Stemmer.none.normalize, options⟩
      (∀ (text : Text) (op : Operator), converter.writeTerm text ≠ op.symbol) ∧
      (∀ output, converter.convert query = .ok output → ∀ element ∈ output,
        (∃ op : Operator, element = op.symbol) ∨
          Stemmer.none.normalize element = element ∧ Text.lower (Text.trim element) = element ∧
          converter.writeTerm element = element) ∧
      convert ⟨fun term => Stemmer.none.normalize (Stemmer.none.normalize term), options⟩ query =
        converter.convert query ∧
      convert ⟨fun term => Text.lower (Text.trim (Stemmer.none.normalize term)), options⟩ query =
        converter.convert query := by
  refine ⟨fun term => ⟨Text.lower_lower term, Text.foldEach_lower term⟩,
    fun chosen options text => ⟨Text.foldEach_lower _, Stemmer.normalize_lower chosen _⟩,
    fun options query => ⟨fun text op => op.lower_ne_symbol _, ?_, ?_, ?_⟩⟩
  · intro output accepted element member
    rw [toPostfix_of_convert accepted] at member
    refine (settled_of_mem_toPostfix options member).imp_right fun settled => ?_
    have lowered : Text.lower (Text.trim element) = element := by
      rw [settled.trimmed, settled.lowered]
    exact ⟨settled.lowered, lowered, (writeTerm_none options element).trans lowered⟩
  · refine convert_congr ?_ ?_ query
    · rfl
    · exact fun text => Text.lower_lower _
  · refine convert_congr ?_ ?_ query
    · rfl
    · intro text
      rw [writeTerm_none]
      change Text.lower (Text.trim (Text.lower (Text.lower (Text.trim text)))) = _
      rw [Text.lower_lower, Text.trim_lower_trim, Text.lower_lower]

/-- One term ends in a sigma, and the lower-case form of the other one has two characters. -/
theorem convert_settles_of_sigma :
    let _ := SuppliedStems.unchanged
    let converter : Converter := ⟨Stemmer.none.normalize, ⟨true, false⟩⟩
    let output := ["οδος".toList, "i\u0307".toList, "AND".toList]
    converter.convert "ΟΔΟΣ AND \tİ".toList = .ok output ∧
      ∀ element ∈ output, element ≠ "AND".toList → converter.writeTerm element = element := by
  intro _ converter output
  have accepted : converter.convert "ΟΔΟΣ AND \tİ".toList = .ok output := by decide +kernel
  refine ⟨accepted, fun element member notSymbol => ?_⟩
  obtain ⟨_, settles, _⟩ := convert_settles.2.2 ⟨true, false⟩ "ΟΔΟΣ AND \tİ".toList
  rcases settles output accepted element member with ⟨op, rfl⟩ | ⟨_, _, written⟩
  · cases op with
    | and => exact absurd rfl notSymbol
    | not | or => exact absurd member (by decide)
  · exact written

end Converter
end BoolQuery
