import BoolQuery.Proofs.Command.Record
import BoolQuery.Proofs.LetterCase
import BoolQuery.Proofs.Text.Lowered

/-!
# Names of stemmers

Of the letters `a` to `z` only `k` is the lower-case form of a character that is not that letter in
either case (`lowerChar_eq_toLower`). The name `none` has no `k`, so it does not matter that it is
compared letter by letter while the languages are compared after lower-casing: the stemmer with a
given name is the one whose own name the lowered name is (`ofName_eq_ok_iff`). Settings have a
converter if and only if nothing is to be said about them.
-/

namespace BoolQuery

namespace Text

/-- The letters `a` to `z` are the images of the letters `A` to `Z`, and `k` is that of one more
character. -/
theorem lowerRuns_letters : ∀ run ∈ lowerRuns, run = ⟨0x0041, 0x005A, 1, 0x0061⟩ ∨
    0x7A < run.image ∨ run = ⟨0x212A, 0x212A, 1, 0x006B⟩ := by
  decide +kernel

/-- The code points of small ASCII letters. -/
theorem isLower_iff {c : Char} : c.isLower = true ↔ 0x61 ≤ c.toNat ∧ c.toNat ≤ 0x7A := by
  simp [Char.isLower, UInt32.le_iff_toNat_le, ← Char.toNat_val]

/-- A lower-case form that consists of letters other than `k` is that of the same letter. -/
theorem lowerChar_eq_toLower {c : Char}
    (letters : ∀ d ∈ lowerChar c, d.isLower = true ∧ d ≠ 'k') : lowerChar c = [c.toLower] := by
  unfold lowerChar at letters ⊢
  split at letters
  · have dot := letters '\u0307' (by decide)
    exact absurd dot.1 (by decide)
  · next plain =>
      rw [if_neg plain]
      split at letters
      · next run found =>
          have covered := List.find?_some found
          obtain ⟨atLeast, atMost, _⟩ := LowerRun.covers_iff.mp covered
          obtain ⟨letter, notK⟩ := letters _ List.mem_cons_self
          have bounds := isLower_iff.mp letter
          rw [toNat_ofNat (by omega), LowerRun.apply] at bounds
          rcases lowerRuns_letters run (List.mem_of_find?_eq_some found) with rfl | beyond | rfl
          · have capital : c.isUpper = true := isUpper_iff.mpr ⟨atLeast, atMost⟩
            have moved : LowerRun.apply ⟨0x0041, 0x005A, 1, 0x0061⟩ c.toNat = c.toNat + 32 := by
              rw [LowerRun.apply]
              dsimp only at atLeast ⊢
              omega
            rw [Char.toLower_eq_of_isUpper capital, ← moved]
          · omega
          · -- The further character has a single code point, and its image is `k`.
            have single : c.toNat = 0x212A := Nat.le_antisymm atMost atLeast
            rw [single] at notK
            exact absurd rfl notK
      · next notFound =>
          have noCapital := not_isUpper_of_noRun (List.find?_eq_none.mp notFound)
          rw [Char.toLower_eq_of_not_isUpper (by simp [noCapital])]

/-- A text whose lower-case form consists of letters other than `k` consists of the same letters. -/
theorem foldAscii_of_lowerAfter {before text : Text}
    (letters : ∀ d ∈ lowerAfter before text, d.isLower = true ∧ d ≠ 'k') :
    lowerAfter before text = foldAscii text := by
  induction text generalizing before with
  | nil => rfl
  | cons c rest inductionHypothesis =>
      rw [lowerAfter] at letters ⊢
      have later := inductionHypothesis fun d member =>
        letters d (List.mem_append_right _ member)
      have notSigma : c ≠ 'Σ' := by
        rintro rfl
        rw [if_pos rfl] at letters
        split at letters
        · exact absurd (letters 'ς' List.mem_cons_self).1 (by decide)
        · exact absurd (letters 'σ' List.mem_cons_self).1 (by decide)
      rw [if_neg notSigma] at letters ⊢
      rw [later, lowerChar_eq_toLower fun d member => letters d (List.mem_append_left _ member)]
      rfl

end Text

namespace Language

/-- The list of all languages leaves none out. -/
theorem mem_all (language : Language) : language ∈ all := by
  cases language <;> decide

/-- Languages have different names. -/
theorem name_injective {language other : Language} (same : language.name = other.name) :
    language = other := by
  have distinct : ∀ language ∈ all, ∀ other ∈ all,
      language.name = other.name → language = other := by
    decide +kernel
  exact distinct language language.mem_all other other.mem_all same

/-- The language with a given name is the one whose name the lowered name is. -/
theorem ofName_eq_ok_iff {name : Text} {language : Language} :
    ofName name = .ok language ↔ Text.lower name = language.name := by
  unfold ofName
  dsimp only
  cases found : all.find? fun language => language.name == Text.lower name with
  | none =>
      have unnamed := List.find?_eq_none.mp found language language.mem_all
      rw [beq_iff_eq] at unnamed
      exact iff_of_false nofun fun same => unnamed same.symm
  | some other =>
      have named := List.find?_some found
      rw [beq_iff_eq] at named
      rw [Except.ok.injEq, ← named]
      exact ⟨congrArg Language.name, name_injective⟩

/-- A name is refused in lower case. -/
theorem ofName_eq_error {name : Text} {refusal : UnsupportedLanguage}
    (refused : ofName name = .error refusal) : refusal = ⟨Text.lower name⟩ := by
  unfold ofName at refused
  dsimp only at refused
  split at refused <;> cases refused
  rfl

/-- No language has the name of the stemmer that does not stem. -/
theorem name_ne_noneName (language : Language) : language.name ≠ Stemmer.noneName := by
  cases language <;> decide

end Language

namespace Stemmer

variable {wanted : Text} {stemmer : Stemmer}

/-- The names of all stemmers. -/
def names : List Text :=
  ["none", "arabic", "danish", "dutch", "english", "finnish", "french", "german", "greek",
   "hungarian", "italian", "norwegian", "portuguese", "romanian", "russian", "spanish", "swedish",
   "tamil", "turkish"]

/-- The name of a stemmer. -/
def name : Stemmer → Text
  | .none => noneName
  | .language chosen => chosen.name

/-- The list of names holds those of the stemmers and no others. -/
theorem mem_names_iff {word : Text} : word ∈ names ↔ ∃ stemmer : Stemmer, word = stemmer.name := by
  have listed : names = noneName :: Language.all.map Language.name := rfl
  rw [listed, List.mem_cons, List.mem_map]
  constructor
  · rintro (rfl | ⟨language, _, rfl⟩)
    · exact ⟨.none, rfl⟩
    · exact ⟨.language language, rfl⟩
  · rintro ⟨_ | language, rfl⟩
    · exact .inl rfl
    · exact .inr ⟨language, language.mem_all, rfl⟩

/-- The name `none` can be told from other names letter by letter. -/
theorem equalIgnoringCase_noneName_iff :
    Text.equalIgnoringCase wanted noneName = true ↔ Text.lower wanted = noneName := by
  have folded : Text.foldAscii noneName = noneName := rfl
  rw [Text.equalIgnoringCase, beq_iff_eq, folded]
  constructor
  · intro same
    rw [← Text.lower_foldAscii, same]
    decide +kernel
  · intro lowered
    have letters : ∀ d ∈ ['n', 'o', 'n', 'e'], d.isLower = true ∧ d ≠ 'k' := by simp
    have same := @Text.foldAscii_of_lowerAfter [] wanted
    rw [show Text.lowerAfter [] wanted = noneName from lowered] at same
    exact (same letters).symm

/-- The stemmer with a given name is the one whose name the lowered name is. -/
theorem ofName_eq_ok_iff : ofName wanted = .ok stemmer ↔ Text.lower wanted = stemmer.name := by
  unfold ofName
  split
  · next caseless =>
      rw [equalIgnoringCase_noneName_iff.mp caseless, Except.ok.injEq]
      cases stemmer with
      | none => exact iff_of_true rfl rfl
      | language chosen => exact iff_of_false nofun (Language.name_ne_noneName chosen).symm
  · next different =>
      rw [equalIgnoringCase_noneName_iff] at different
      cases stemmer with
      | none =>
          refine iff_of_false (fun named => ?_) different
          cases found : Language.ofName wanted <;> rw [found] at named <;> cases named
      | language chosen =>
          rw [name, ← Language.ofName_eq_ok_iff]
          cases Language.ofName wanted <;> simp [Except.map]

/-- A name is refused in lower case, whatever stemmer was wanted. -/
theorem ofName_eq_error {refusal : UnsupportedLanguage} (refused : ofName wanted = .error refusal) :
    refusal = ⟨Text.lower wanted⟩ := by
  unfold ofName at refused
  split at refused
  · cases refused
  · cases found : Language.ofName wanted with
    | ok chosen =>
        rw [found] at refused
        cases refused
    | error other =>
        rw [found] at refused
        cases refused
        exact Language.ofName_eq_error found

/-- A stemmer is found exactly if the lowered name is listed. -/
theorem ofName_isOk_iff : (∃ stemmer, ofName wanted = .ok stemmer) ↔ Text.lower wanted ∈ names := by
  simp only [ofName_eq_ok_iff, mem_names_iff]

/-- A name and its lower-case form name the same stemmer, or none. -/
theorem ofName_lower (wanted : Text) : ofName (Text.lower wanted) = ofName wanted := by
  cases named : ofName wanted with
  | ok stemmer =>
      rw [ofName_eq_ok_iff, Text.lower_lower]
      exact ofName_eq_ok_iff.mp named
  | error refusal =>
      cases lowered : ofName (Text.lower wanted) with
      | ok stemmer =>
          rw [ofName_eq_ok_iff, Text.lower_lower, ← ofName_eq_ok_iff, named] at lowered
          cases lowered
      | error other =>
          rw [ofName_eq_error named, ofName_eq_error lowered, Text.lower_lower]

end Stemmer

namespace Settings

variable {settings : Settings}

/-- Settings have a converter, or their one warning is about the name of the stemmer as configured
and what refuses to be a converter names it in lower case. -/
theorem warnings_cases [SuppliedStems] (settings : Settings) :
    (settings.warnings = [] ∧ ∃ converter, settings.converter = .ok converter) ∨
    (settings.warnings = [.unknownStemmer settings.query.stemmer] ∧
      settings.converter = .error ⟨Text.lower settings.query.stemmer⟩) := by
  rw [warnings, converter]
  cases named : Stemmer.ofName settings.query.stemmer with
  | ok stemmer => exact .inl ⟨rfl, _, rfl⟩
  | error refusal =>
      rw [Stemmer.ofName_eq_error named]
      exact .inr ⟨rfl, rfl⟩

/-- Showing settings succeeds exactly if they cause no warning. -/
theorem code_runConfig (files : FileTree) :
    (Command.runConfig files settings).code = 0 ↔ settings.warnings = [] := by
  rw [Command.runConfig]
  cases settings.warnings <;> simp

end Settings

namespace Stemmer

/-- The names of stemmers are recognized in any case that lower-casing forgets, and the lowered name
is as good as the name. Settings cause no warning if and only if they have a converter, and if and
only if they can be shown with success. Otherwise the one warning holds the name as configured, and
the refusal holds it in lower case, where it stays the same however often it is lowered. -/
theorem ofName_caseless [SuppliedStems] :
    (∀ name : Text, ((∃ stemmer, ofName name = .ok stemmer) ↔ Text.lower name ∈ names) ∧
      ofName (Text.lower name) = ofName name) ∧
    ∀ settings : Settings,
      (settings.warnings = [] ↔ ∃ converter, settings.converter = .ok converter) ∧
      (∀ files, settings.warnings = [] ↔ (Command.runConfig files settings).code = 0) ∧
      (∀ (environment : Environment) (filter : Log.Filter),
        environment.load environment.directory.path = .ok settings →
        (settings.warnings = [] ↔ (Command.run environment filter .config).code = 0)) ∧
      (settings.warnings ≠ [] →
        settings.warnings = [.unknownStemmer settings.query.stemmer] ∧
        settings.converter = .error ⟨Text.lower settings.query.stemmer⟩ ∧
        Text.lower (Text.lower settings.query.stemmer) = Text.lower settings.query.stemmer) := by
  refine ⟨fun name => ⟨ofName_isOk_iff, ofName_lower name⟩, fun settings => ⟨?_, ?_, ?_, ?_⟩⟩
  · rcases settings.warnings_cases with ⟨silent, made⟩ | ⟨warned, refused⟩
    · exact iff_of_true silent made
    · rw [warned, refused]
      exact iff_of_false nofun nofun
  · exact fun files => (Settings.code_runConfig files).symm
  · intro environment filter loaded
    rw [Command.run, Command.withSettings_of_load filter loaded]
    exact (Settings.code_runConfig environment.files).symm
  · intro warned
    rcases settings.warnings_cases with ⟨silent, _⟩ | ⟨named, refused⟩
    · exact absurd silent warned
    · exact ⟨named, refused, Text.lower_lower _⟩

/-- A Kelvin sign stands for a letter of a name. The name of an unknown stemmer is reported as
configured and refused in lower case. -/
theorem ofName_caseless_of_kelvin :
    let _ := SuppliedStems.unchanged
    let environment := Environment.holding [] ⟨"/".toList⟩
    let settings : Settings := ⟨⟨"KlingON".toList, false, false⟩, .none, []⟩
    (∃ stemmer, ofName "GREE\u212A".toList = .ok stemmer) ∧
    (environment.load environment.directory.path = .ok Settings.default ∧
      (Command.run environment [] .config).code = 0) ∧
    settings.warnings ≠ [] ∧ settings.warnings = [.unknownStemmer "KlingON".toList] ∧
      settings.converter = .error ⟨"klingon".toList⟩ := by
  intro _ environment settings
  obtain ⟨named, configured⟩ := ofName_caseless
  have loaded : environment.load environment.directory.path = .ok Settings.default := rfl
  have warned : settings.warnings ≠ [] := by decide +kernel
  obtain ⟨_, _, shown, _⟩ := configured Settings.default
  obtain ⟨_, _, _, refused⟩ := configured settings
  obtain ⟨warning, refusal, _⟩ := refused warned
  have silent : Settings.default.warnings = [] := by decide +kernel
  have lowered : Text.lower settings.query.stemmer = "klingon".toList := by decide +kernel
  refine ⟨(named _).1.mpr (by decide +kernel), ⟨loaded, (shown environment [] loaded).mp silent⟩,
    warned, warning, ?_⟩
  rw [refusal, lowered]

end Stemmer
end BoolQuery
