import BoolQuery.Proofs.Command.Record
import BoolQuery.Proofs.Postfix.Markers
import BoolQuery.Proofs.Stemming.Languages
import BoolQuery.Proofs.Text.Split

/-!
# Text output line by line

Without a request for JSON every accepted query gets a line with its elements, and spaces between
them. No element holds a space, since these separate terms and no way of normalizing terms adds one
as long as the supplied stems add none, so the elements can be read back from their line. A line
feed within a term is kept, however, so the lines can be read back exactly if no term has one
(`output_lines`).
-/

namespace BoolQuery

namespace Converter

variable [SuppliedStems] {query element : Text} {stemmer : Stemmer} {options : ConvertOptions}
  {c : Char}

/-- A blank character before `A` stands in an element only if a term keeps it when it is trimmed. -/
theorem exists_term_of_isBlank (supplied : SuppliedStems.AddNoBlank)
    (blank : Text.isBlank c = true) (positive : 0 < c.toNat) (early : c.toNat ≤ 0x40)
    (member : element ∈ toPostfix ⟨stemmer.normalize, options⟩ query) (occurs : c ∈ element) :
    ∃ placed ∈ Token.ofQuery options.anyCase query, ∃ text, placed.token = .term text ∧
      c ∈ Text.trim text := by
  rcases exists_of_mem_toPostfix member with ⟨op, rfl⟩ | rfl | ⟨placed, listed, text, kind, rfl⟩
  · rw [Text.not_isBlank_of_isAlpha (Operator.isAlpha_of_mem_symbol occurs)] at blank
    cases blank
  · rw [List.mem_singleton.mp occurs] at blank
    exact absurd blank (by decide)
  · have lowered := Stemmer.mem_of_mem_normalize supplied blank positive early occurs
    exact ⟨placed, listed, text, kind, Text.mem_of_mem_lower positive early lowered⟩

/-- No element holds a space, since a term has none to keep. -/
theorem noSpace_of_mem_toPostfix (supplied : SuppliedStems.AddNoBlank)
    (member : element ∈ toPostfix ⟨stemmer.normalize, options⟩ query) : ' ' ∉ element := by
  intro occurs
  obtain ⟨placed, listed, text, kind, kept⟩ :=
    exists_term_of_isBlank supplied (by decide) (by decide) (by decide) member occurs
  exact (Token.isTerm_of_mem_ofQuery listed kind).whole.noSpace (Text.mem_of_mem_trim kept)

end Converter

/-- Rejected queries have no line, and accepted ones have one each. -/
theorem Answer.flatMap_line (answers : List Answer) :
    answers.flatMap line =
      ((answers.filterMap (·.result.toOption)).map (Text.joinWith [' '])).flatMap Text.line := by
  induction answers with
  | nil => rfl
  | cons answer answers inductionHypothesis =>
      obtain ⟨query, result⟩ := answer
      rw [List.flatMap_cons, inductionHypothesis]
      cases result <;> rfl

namespace Text

/-- Elements without spaces are read back from their line, and no elements are an empty line. -/
theorem splitAtEach_joinWith_spaces {elements : List Text}
    (noSpace : ∀ element ∈ elements, ' ' ∉ element) :
    splitAtEach ' ' (joinWith [' '] elements) = if elements = [] then [[]] else elements := by
  split
  · next empty => rw [empty, joinWith, splitAtEach]
  · next filled => exact splitAtEach_joinWith filled noSpace

/-- Lines of elements are read back exactly if no element holds a line feed. -/
theorem splitAtEach_lines_joinWith_iff {accepted : List (List Text)} :
    splitAtEach '\n' ((accepted.map (joinWith [' '])).flatMap line) =
        accepted.map (joinWith [' ']) ++ [[]] ↔
      ∀ elements ∈ accepted, ∀ element ∈ elements, '\n' ∉ element := by
  have feed : ('\n' : Char) ≠ ' ' := by decide
  rw [splitAtEach_lines_iff, List.forall_mem_map]
  simp only [mem_joinWith_iff feed, not_exists, not_and]

end Text

namespace Command

/-- Any request to convert queries without JSON, with settings that can be loaded and a stemmer that
exists, is answered by one line for every accepted query, in order, and nothing for the others.
Cutting a line at its spaces gives back the elements of the query. Cutting the output at its line
feeds gives back the lines, followed by nothing, exactly if no element holds a line feed, and no
element of a query does unless there is one within a term. Of the stems that come from outside it is
assumed that they add no blank characters to words. -/
theorem output_lines [SuppliedStems] (supplied : SuppliedStems.AddNoBlank)
    {environment : Environment} {arguments : List Text} {request : ConvertRequest}
    {settings : Settings} {stemmer : Stemmer} (filter : Log.Filter)
    (asked : ofArguments arguments = .ok (.convert request)) (plain : request.json = false)
    (loaded : environment.load environment.directory.path = .ok settings)
    (known : Stemmer.ofName (request.stemmer.getD settings.query.stemmer) = .ok stemmer) :
    let strict :=
      if request.strict then true else if request.lenient then false else settings.query.strict
    let anyCase := if request.anyCase then true else settings.query.anyCase
    let converter : Converter := ⟨stemmer.normalize, ⟨strict, anyCase⟩⟩
    let accepted := request.queries.filterMap fun query => (converter.convert query).toOption
    let lines := accepted.map (Text.joinWith [' '])
    ∃ outcome, runArguments environment filter arguments = .ok outcome ∧
      outcome.output = lines.flatMap Text.line ∧
      lines.map (Text.splitAtEach ' ') =
        (accepted.map fun elements => if elements = [] then [[]] else elements) ∧
      (Text.splitAtEach '\n' outcome.output = lines ++ [[]] ↔
        ∀ elements ∈ accepted, ∀ element ∈ elements, '\n' ∉ element) ∧
      ∀ query elements, converter.convert query = .ok elements →
        (∀ placed ∈ converter.tokens query, ∀ text, placed.token = .term text →
          '\n' ∉ Text.trim text) →
        ∀ element ∈ elements, '\n' ∉ element := by
  intro strict anyCase converter accepted lines
  have made : request.converter settings = .ok converter :=
    ConvertRequest.converter_eq (convert_of_ofArguments asked).2 known
  have written : (run environment filter (.convert request)).output = lines.flatMap Text.line := by
    rw [(run_convert filter loaded made).1, if_neg (by simp [plain]), Answer.flatMap_line,
      ConvertRequest.answers, List.filterMap_map]
    rfl
  refine ⟨_, runArguments_of_ofArguments filter asked, written, ?_, ?_, ?_⟩
  · rw [List.map_map]
    refine List.map_congr_left fun elements member => ?_
    obtain ⟨query, _, result⟩ := List.mem_filterMap.mp member
    have accepts : converter.convert query = .ok elements := by
      cases converted : converter.convert query with
      | ok _ => rw [converted] at result; exact congrArg Except.ok (Option.some.inj result)
      | error _ => rw [converted] at result; cases result
    -- Accepted queries have the elements of lenient conversion, and none of these holds a space.
    refine Text.splitAtEach_joinWith_spaces fun element listed => ?_
    rw [Converter.toPostfix_of_convert accepts] at listed
    exact Converter.noSpace_of_mem_toPostfix supplied listed
  · rw [written]
    exact Text.splitAtEach_lines_joinWith_iff
  · intro query elements accepts plainTerms element member occurs
    rw [Converter.toPostfix_of_convert accepts] at member
    obtain ⟨placed, listed, text, kind, kept⟩ := Converter.exists_term_of_isBlank supplied
      (by decide) (by decide) (by decide) member occurs
    exact plainTerms placed listed text kind kept

/-- Without settings files, the first and the last of three queries are accepted in strict mode. -/
theorem output_lines_of_accepted_and_rejected :
    let _ := SuppliedStems.unchanged
    let environment := Environment.holding [] ⟨"/".toList⟩
    let queries := ["Cats AND (NOT dogs)".toList, "(c".toList, "a\tb".toList]
    let request : ConvertRequest := ⟨queries, true, false, false, some "english".toList, false⟩
    let lines := ["cat dog NOT AND".toList, "a\tb".toList]
    SuppliedStems.AddNoBlank ∧
    ∃ outcome, runArguments environment [] request.words = .ok outcome ∧
      outcome.output = lines.flatMap Text.line ∧
      Text.splitAtEach '\n' outcome.output = lines ++ [[]] := by
  intro _ environment queries request lines
  have asked : ofArguments request.words = .ok (.convert request) :=
    ConvertRequest.ofArguments_words (by simp [request, queries]) (by simp [request])
  have loaded : environment.load environment.directory.path = .ok Settings.default := rfl
  have known : Stemmer.ofName (request.stemmer.getD Settings.default.query.stemmer) =
      .ok (.language .english) := rfl
  obtain ⟨outcome, ran, written, _, readBack, _⟩ :=
    output_lines SuppliedStems.addNoBlank_unchanged [] asked rfl loaded known
  have output := written.trans (show _ = lines.flatMap Text.line by decide +kernel)
  refine ⟨SuppliedStems.addNoBlank_unchanged, outcome, ran, output, (readBack.mpr ?_).trans ?_⟩
  · decide +kernel
  · decide +kernel

/-- A line feed within a term ends a line, so the only element of the query is not read back. -/
theorem output_lines_of_line_feed :
    let _ := SuppliedStems.unchanged
    let environment := Environment.holding [] ⟨"/".toList⟩
    let query := "a\nb".toList
    let request : ConvertRequest := ⟨[query], false, false, false, some "none".toList, false⟩
    let converter : Converter := ⟨Stemmer.none.normalize, ⟨false, false⟩⟩
    converter.convert query = .ok [query] ∧
      ∃ outcome, runArguments environment [] request.words = .ok outcome ∧
        outcome.output = "a\nb\n".toList ∧
        Text.splitAtEach '\n' outcome.output = [['a'], ['b'], []] := by
  intro _ environment query request converter
  have asked : ofArguments request.words = .ok (.convert request) :=
    ConvertRequest.ofArguments_words (by simp [request]) (by simp [request])
  have made : request.converter Settings.default = .ok converter := rfl
  have output : (run environment [] (.convert request)).output = "a\nb\n".toList :=
    (run_convert [] rfl made).1.trans (by decide +kernel)
  exact ⟨by decide +kernel, _, runArguments_of_ofArguments [] asked, output, output ▸ rfl⟩

end Command
end BoolQuery
