import Mathlib.Data.List.Forall2
import BoolQuery.Command.Run
import BoolQuery.Proofs.Command.Arguments
import BoolQuery.Proofs.Json.Reader
import BoolQuery.Proofs.Settings.Isolation

/-!
# JSON output records every conversion

The document that a request for JSON gets is read as one entry for every query, in order, and the
entry says what the converter makes of this query alone: its elements, or what is wrong and where
(`output_records`). The converter is the one that the settings describe, with what the request says
in their place, and the exit code reports whether any query was rejected.
-/

namespace BoolQuery

/-- Why a query was rejected, if it was. -/
def rejection? : Except Diagnostic (List Text) → Option Diagnostic
  | .ok _ => none
  | .error diagnostic => some diagnostic

/-- A JSON value says what became of a query: it is an object without repeated names, which holds
the query, and either the elements or the message of the defect and its offset, where known. -/
structure Json.Value.Records (entry : Json.Value) (query : Text)
    (result : Except Diagnostic (List Text)) : Prop where
  shape : ∃ members, entry = .object members ∧ (members.map Prod.fst).Nodup
  question : entry.member? "query" = some (.text query)
  elements : entry.member? "postfix" = result.toOption.map fun elements =>
    .list (elements.map .text)
  defect : entry.member? "error" = (rejection? result).map fun diagnostic =>
    .text diagnostic.defect.message
  offset : entry.member? "position" = (rejection? result).bind fun diagnostic =>
    diagnostic.offset.map .number

namespace Answer

/-- The JSON value of an answer records what became of the query. -/
theorem records_toJson (answer : Answer) : answer.toJson.Records answer.query answer.result := by
  obtain ⟨query, result⟩ := answer
  have different (names : List Text) (distinct : names.Nodup := by decide) : names.Nodup := distinct
  cases result with
  | ok elements =>
      exact ⟨⟨_, rfl, different ["query", "postfix"]⟩, rfl, rfl, rfl, rfl⟩
  | error diagnostic =>
      obtain ⟨defect, offset, source⟩ := diagnostic
      cases offset with
      | none => exact ⟨⟨_, rfl, different ["query", "error"]⟩, rfl, rfl, rfl, rfl⟩
      | some offset =>
          exact ⟨⟨_, rfl, different ["query", "error", "position"]⟩, rfl, rfl, rfl, rfl⟩

/-- A query was rejected if its entry has an error. -/
theorem isRejected_iff (answer : Answer) :
    answer.isRejected = true ↔ answer.toJson.member? "error" ≠ none := by
  rw [answer.records_toJson.defect, isRejected]
  cases answer.result <;> simp [rejection?]

/-- The document with all answers is read as their JSON values, in order. -/
theorem ofText?_document (answers : List Answer) :
    Json.Value.ofText? (document answers) =
      some (.object [("queries".toList, .list (answers.map toJson))]) :=
  Json.Value.ofText?_line_render _

end Answer

namespace ConvertRequest

/-- The converter that a request asks for, with a stemmer that exists. -/
theorem converter_eq [SuppliedStems] {request : ConvertRequest} {settings : Settings}
    {stemmer : Stemmer} (compatible : ¬(request.strict = true ∧ request.lenient = true))
    (known : Stemmer.ofName (request.stemmer.getD settings.query.stemmer) = .ok stemmer) :
    request.converter settings = .ok
      ⟨stemmer.normalize,
        ⟨if request.strict then true else if request.lenient then false else settings.query.strict,
          if request.anyCase then true else settings.query.anyCase⟩⟩ := by
  rw [converter, known]
  cases strict : request.strict <;> cases lenient : request.lenient <;>
    cases request.anyCase <;> simp_all [Except.map]

end ConvertRequest

namespace Command

variable {environment : Environment} {request : ConvertRequest} {settings : Settings}
  {converter : Converter}

/-- With settings that can be loaded a command does what it does with these, and logs them first. -/
theorem withSettings_of_load (filter : Log.Filter)
    (loaded : environment.load environment.directory.path = .ok settings)
    (act : Settings → Outcome) :
    withSettings environment filter act =
      { act settings with
        errors := filter.lines (Log.Event.ofSettings settings) ++ (act settings).errors } := by
  unfold withSettings
  rw [loaded]

/-- Words that name a command run this command. -/
theorem runArguments_of_ofArguments [SuppliedStems] (filter : Log.Filter) {arguments : List Text}
    {command : Command} (asked : ofArguments arguments = .ok command) :
    runArguments environment filter arguments = .ok (run environment filter command) := by
  rw [runArguments, asked]
  rfl

/-- What is written and how the program ends when queries are converted. -/
theorem run_convert [SuppliedStems] (filter : Log.Filter)
    (loaded : environment.load environment.directory.path = .ok settings)
    (made : request.converter settings = .ok converter) :
    let answers := request.answers converter
    let outcome := run environment filter (.convert request)
    outcome.output =
        (if request.json then Answer.document answers else answers.flatMap Answer.line) ∧
      outcome.code = if answers.any Answer.isRejected then 1 else 0 := by
  intro answers outcome
  have ran := withSettings_of_load filter loaded fun settings =>
    runConvert environment.files filter settings request
  have acted : (runConvert environment.files filter settings request).output =
        (if request.json then Answer.document answers else answers.flatMap Answer.line) ∧
      (runConvert environment.files filter settings request).code =
        if answers.any Answer.isRejected then 1 else 0 := by
    unfold runConvert
    rw [made]
    dsimp only
    split <;> exact ⟨rfl, rfl⟩
  exact ⟨(congrArg Outcome.output ran).trans acted.1, (congrArg Outcome.code ran).trans acted.2⟩

/-- What is written and how the program ends when queries are converted to JSON. -/
theorem run_convert_json [SuppliedStems] (filter : Log.Filter)
    (loaded : environment.load environment.directory.path = .ok settings)
    (made : request.converter settings = .ok converter) (json : request.json = true) :
    let answers := request.answers converter
    let outcome := run environment filter (.convert request)
    outcome.output = Answer.document answers ∧
      outcome.code = if answers.any Answer.isRejected then 1 else 0 := by
  intro answers outcome
  obtain ⟨output, code⟩ := run_convert filter loaded made
  exact ⟨output.trans (if_pos json), code⟩

/-- Any request to convert queries to JSON with settings that can be loaded and a stemmer that
exists is answered by a document with one entry for every query, in order, which says what the
converter makes of this query. The converter takes the stemmer, the mode and the case of keywords
from the request where it names them and from the settings otherwise. The exit code is a failure if
an entry has an error, and only then. -/
theorem output_records [SuppliedStems] {environment : Environment} {arguments : List Text}
    {request : ConvertRequest} {settings : Settings} {stemmer : Stemmer} (filter : Log.Filter)
    (asked : ofArguments arguments = .ok (.convert request)) (json : request.json = true)
    (loaded : environment.load environment.directory.path = .ok settings)
    (known : Stemmer.ofName (request.stemmer.getD settings.query.stemmer) = .ok stemmer) :
    let strict :=
      if request.strict then true else if request.lenient then false else settings.query.strict
    let anyCase := if request.anyCase then true else settings.query.anyCase
    let converter : Converter := ⟨stemmer.normalize, ⟨strict, anyCase⟩⟩
    ∃ outcome entries, runArguments environment filter arguments = .ok outcome ∧
      Json.Value.ofText? outcome.output = some (.object [("queries".toList, .list entries)]) ∧
      List.Forall₂ (fun query entry => entry.Records query (converter.convert query))
        request.queries entries ∧
      (outcome.code ≠ 0 ↔ ∃ entry ∈ entries, entry.member? "error" ≠ none) := by
  intro strict anyCase converter
  have made : request.converter settings = .ok converter :=
    ConvertRequest.converter_eq (convert_of_ofArguments asked).2 known
  have ran : runArguments environment filter arguments =
      .ok (run environment filter (.convert request)) := by
    rw [runArguments, asked]
    rfl
  let answers := request.answers converter
  obtain ⟨output, code⟩ := run_convert_json filter loaded made json
  refine ⟨_, answers.map Answer.toJson, ran, ?_, ?_, ?_⟩
  · rw [output, Answer.ofText?_document]
  · simp only [answers, ConvertRequest.answers, List.map_map]
    rw [List.forall₂_map_right_iff, List.forall₂_same]
    exact fun query _ => Answer.records_toJson ⟨query, converter.convert query⟩
  · have rejected : answers.any Answer.isRejected = true ↔
        ∃ entry ∈ answers.map Answer.toJson, entry.member? "error" ≠ none := by
      simp only [List.any_eq_true, List.mem_map, Answer.isRejected_iff, exists_exists_and_eq_and]
    rw [code, ← rejected]
    cases answers.any Answer.isRejected <;> decide

/-- Without settings files, the query `a "b"` is converted and the query `(c` is rejected in strict
mode. -/
theorem output_records_of_accepted_and_rejected :
    let _ := SuppliedStems.unchanged
    let environment := Environment.holding [] ⟨"/".toList⟩
    let queries := ["a \"b\"".toList, "(c".toList]
    let request : ConvertRequest := ⟨queries, true, false, false, some "none".toList, true⟩
    let converter : Converter := ⟨Stemmer.none.normalize, ⟨true, false⟩⟩
    ∃ outcome entries, runArguments environment [] request.words = .ok outcome ∧
      Json.Value.ofText? outcome.output = some (.object [("queries".toList, .list entries)]) ∧
      List.Forall₂ (fun query entry => entry.Records query (converter.convert query))
        queries entries ∧
      (outcome.code ≠ 0 ↔ ∃ entry ∈ entries, entry.member? "error" ≠ none) := by
  intro _ environment queries request converter
  have asked : ofArguments request.words = .ok (.convert request) :=
    ConvertRequest.ofArguments_words (by simp [request, queries]) (by simp [request])
  have loaded : environment.load environment.directory.path = .ok Settings.default := rfl
  have known : Stemmer.ofName (request.stemmer.getD Settings.default.query.stemmer) =
      .ok .none := rfl
  exact (output_records [] asked rfl loaded known :)

end Command
end BoolQuery
