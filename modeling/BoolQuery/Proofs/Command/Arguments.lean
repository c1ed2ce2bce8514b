import BoolQuery.Command.Arguments

/-!
# What words ask for

A command is run because the words behind its name ask for it (`asks_of_ofArguments`). Options are
never implied: a flag without a letter is set only where its name stands behind two dashes
(`mem_words_of_mem_flags`), so no existing file is overwritten unless a word says so
(`force_mem_of_init`). Conversely there are words for every request to convert queries
(`ofArguments_words`) or to list tokens (`ofArguments_listingWords`).
-/

namespace BoolQuery

/-- Two steps succeed if both do. -/
theorem bind_eq_ok {ε α β : Type} {first : Except ε α} {second : α → Except ε β} {result : β} :
    first >>= second = .ok result ↔ ∃ value, first = .ok value ∧ second value = .ok result := by
  cases first with
  | error error => exact ⟨nofun, fun ⟨_, impossible, _⟩ => nomatch impossible⟩
  | ok value =>
      exact ⟨fun succeeded => ⟨value, rfl, succeeded⟩, fun ⟨_, rfl, succeeded⟩ => succeeded⟩

namespace Given

variable {given next : Given} {signature : Signature} {flag : Flag} {word : Text}

/-! ### Flags -/

/-- Settling the option that waits sets no flag. -/
theorem settle_flags (settled : given.settle = .ok next) : next.flags = given.flags := by
  unfold settle at settled
  split at settled
  · cases settled
    rfl
  · cases settled
  · split at settled <;> cases settled
    rfl

/-- Adding a flag sets it behind the others. -/
theorem addFlag_flags (added : given.addFlag flag = .ok next) :
    next.flags = given.flags ++ [flag] := by
  obtain ⟨first, settled, added⟩ := bind_eq_ok.mp added
  split at added
  · cases added
  · split at added <;> cases added
    rw [settle_flags settled]

/-- Adding a query sets no flag. -/
theorem addQuery_flags (added : given.addQuery signature word = .ok next) :
    next.flags = given.flags := by
  unfold addQuery at added
  split at added
  · cases added
  · obtain ⟨first, settled, added⟩ := bind_eq_ok.mp added
    cases added
    exact (settle_flags settled :)

/-- Adding any number of queries sets no flag. -/
theorem foldlM_addQuery_flags {queries : List Text}
    (added : queries.foldlM (addQuery signature) given = .ok next) : next.flags = given.flags := by
  induction queries generalizing given with
  | nil =>
      cases added
      rfl
  | cons query rest inductionHypothesis =>
      rw [List.foldlM_cons] at added
      obtain ⟨first, addedFirst, added⟩ := bind_eq_ok.mp added
      exact (inductionHypothesis added).trans (addQuery_flags addedFirst)

/-- Adding a stemmer sets no flag. -/
theorem addStemmer_flags {value : Option Text} (added : given.addStemmer value = .ok next) :
    next.flags = given.flags := by
  obtain ⟨first, settled, added⟩ := bind_eq_ok.mp added
  split at added
  · exact (settle_flags added).trans (settle_flags settled :)
  · cases added
    exact (settle_flags settled :)

/-- Letters set no flag that has none. -/
theorem addLetters_flags {letters : Text} (added : given.addLetters signature letters = .ok next)
    (noLetter : flag.letter? = none) (member : flag ∈ next.flags) : flag ∈ given.flags := by
  induction letters generalizing given with
  | nil =>
      cases added
      exact member
  | cons letter rest inductionHypothesis =>
      rw [addLetters] at added
      cases found : signature.flagLettered? letter with
      | none =>
          rw [found] at added
          cases added
      | some lettered =>
          rw [found] at added
          obtain ⟨first, addedFirst, added⟩ := bind_eq_ok.mp added
          have among := inductionHypothesis added
          rw [addFlag_flags addedFirst] at among
          rcases List.mem_append.mp among with before | new
          · exact before
          · have hasLetter := List.find?_some found
            rw [← List.mem_singleton.mp new, noLetter] at hasLetter
            cases hasLetter

/-- A word without a value is a name as a whole. -/
theorem splitValue_none {name : Text} (whole : splitValue word = (name, none)) : word = name := by
  unfold splitValue at whole
  split at whole
  · exact congrArg Prod.fst whole
  · cases whole

/-- A flag without a letter stems from the word that is its name behind two dashes. -/
theorem addWord_flags (added : given.addWord signature word = .ok next)
    (noLetter : flag.letter? = none) (member : flag ∈ next.flags) :
    flag ∈ given.flags ∨ word = "--".toList ++ flag.name := by
  unfold addWord at added
  split at added
  · next option =>
      cases parts : splitValue option with
      | mk name value =>
          rw [parts] at added
          simp only [addNamed] at added
          split at added
          · exact .inl (addStemmer_flags added ▸ member)
          · split at added
            · cases added
            · cases added
            · next named _ found =>
                rw [addFlag_flags added] at member
                rcases List.mem_append.mp member with before | new
                · exact .inl before
                · have isName := List.find?_some found
                  rw [← List.mem_singleton.mp new, beq_iff_eq] at isName
                  exact .inr (by rw [splitValue_none parts, isName]; rfl)
  · exact .inl (addLetters_flags added noLetter member)
  · split at added
    · cases added
      exact .inl member
    · exact .inl (addQuery_flags added ▸ member)

/-- A flag without a letter is set by its long name only, which then is one of the words. -/
theorem mem_words_of_mem_flags {words : List Text}
    (succeeded : given.read signature words = .ok next) (noLetter : flag.letter? = none)
    (member : flag ∈ next.flags) :
    flag ∈ given.flags ∨ "--".toList ++ flag.name ∈ words := by
  induction words generalizing given with
  | nil => exact .inl (settle_flags succeeded ▸ member)
  | cons word rest inductionHypothesis =>
      rw [read] at succeeded
      split at succeeded
      · -- Behind the two dashes every word is a query.
        obtain ⟨first, added, settled⟩ := bind_eq_ok.mp succeeded
        rw [settle_flags settled, foldlM_addQuery_flags added] at member
        exact .inl member
      · obtain ⟨first, added, succeeded⟩ := bind_eq_ok.mp succeeded
        rcases inductionHypothesis succeeded with before | later
        · rcases addWord_flags added noLetter before with before | rfl
          · exact .inl before
          · exact .inr List.mem_cons_self
        · exact .inr (List.mem_cons_of_mem word later)

/-! ### Commands -/

/-- The meaning of words is to run a command. -/
def Asks (given : Given) : Command → Prop
  | .convert request =>
    given.queries ≠ [] ∧ ¬(Flag.strict ∈ given.flags ∧ Flag.lenient ∈ given.flags) ∧
      request = ⟨given.queries, given.flags.contains .strict, given.flags.contains .lenient,
        given.flags.contains .anyCase, given.stemmer, given.flags.contains .json⟩
  | .tokens query anyCase =>
    given.queries.head? = some query ∧ anyCase = given.flags.contains .anyCase
  | .init global force =>
    global = given.flags.contains .global ∧ force = given.flags.contains .force
  | .config => True

end Given

namespace Command

variable {words arguments : List Text} {command : Command}

/-- A request to convert queries is made of what its words mean. -/
theorem asks_of_readConvert (succeeded : readConvert words = .ok command) :
    ∃ given, Given.nothing.read .convert words = .ok given ∧ given.Asks command := by
  obtain ⟨given, isRead, chosen⟩ := bind_eq_ok.mp succeeded
  dsimp only at chosen
  split at chosen
  · cases chosen
  · next compatible =>
      split at chosen
      · cases chosen
      · next filled =>
          cases chosen
          exact ⟨given, isRead, by simpa using filled, by simpa using compatible, rfl⟩

/-- A request to list tokens is made of what its words mean. -/
theorem asks_of_readTokens (succeeded : readTokens words = .ok command) :
    ∃ given, Given.nothing.read .tokens words = .ok given ∧ given.Asks command := by
  obtain ⟨given, isRead, chosen⟩ := bind_eq_ok.mp succeeded
  split at chosen
  · cases chosen
  · next query rest listed =>
      cases chosen
      exact ⟨given, isRead, congrArg List.head? listed, rfl⟩

/-- A request for a settings file is made of what its words mean. -/
theorem asks_of_readInit (succeeded : readInit words = .ok command) :
    ∃ given, Given.nothing.read .init words = .ok given ∧ given.Asks command := by
  obtain ⟨given, isRead, chosen⟩ := bind_eq_ok.mp succeeded
  cases chosen
  exact ⟨given, isRead, rfl, rfl⟩

/-- A request to show settings needs words that can be read, and nothing more. -/
theorem asks_of_readConfig (succeeded : readConfig words = .ok command) :
    ∃ given, Given.nothing.read .config words = .ok given ∧ given.Asks command := by
  obtain ⟨given, isRead, chosen⟩ := bind_eq_ok.mp succeeded
  cases chosen
  exact ⟨given, isRead, trivial⟩

/-- A command is run because the words behind its name ask for it. -/
theorem asks_of_ofArguments (succeeded : ofArguments arguments = .ok command) :
    ∃ name words, arguments = name :: words ∧
      ∃ signature given, Given.nothing.read signature words = .ok given ∧ given.Asks command := by
  unfold ofArguments at succeeded
  split at succeeded
  · cases succeeded
  · next name words =>
      refine ⟨name, words, rfl, ?_⟩
      split at succeeded
      · cases succeeded
      · split at succeeded
        · exact ⟨_, asks_of_readConvert succeeded⟩
        · split at succeeded
          · exact ⟨_, asks_of_readTokens succeeded⟩
          · split at succeeded
            · exact ⟨_, asks_of_readInit succeeded⟩
            · split at succeeded
              · exact ⟨_, asks_of_readConfig succeeded⟩
              · split at succeeded
                · cases succeeded
                · split at succeeded <;> cases succeeded

/-- Existing files are overwritten only if a word says so. -/
theorem force_mem_of_init {global : Bool}
    (isInit : ofArguments arguments = .ok (.init global true)) :
    "--force".toList ∈ arguments := by
  obtain ⟨name, words, rfl, signature, given, isRead, _, forced⟩ := asks_of_ofArguments isInit
  rcases Given.mem_words_of_mem_flags isRead rfl (List.contains_iff_mem.mp forced.symm) with
    before | word
  · cases before
  · exact List.mem_cons_of_mem name word

/-- A request to convert queries names one at least, and does not ask to be both strict and
lenient. -/
theorem convert_of_ofArguments {request : ConvertRequest}
    (asked : ofArguments arguments = .ok (.convert request)) :
    request.queries ≠ [] ∧ ¬(request.strict = true ∧ request.lenient = true) := by
  obtain ⟨name, words, rfl, signature, given, isRead, filled, compatible, rfl⟩ :=
    asks_of_ofArguments asked
  exact ⟨filled, by simpa using compatible⟩

end Command

/-! ### Every request can be made -/

namespace Given

/-- The word that sets a flag, if it is wanted. -/
def flagWords (flag : Flag) (wanted : Bool) : List Text :=
  if wanted then ["--".toList ++ flag.name] else []

variable {given : Given} {signature : Signature} {flag : Flag} {rest : List Text}

/-- There is nothing to settle where no option waits. -/
theorem settle_eq (settled : given.waiting = none) : given.settle = .ok given := by
  rw [settle, settled]

/-- A flag is new or given for the second time. -/
theorem addFlag_eq (settled : given.waiting = none) (notHelp : flag ≠ .help) :
    given.addFlag flag = if flag ∈ given.flags then .error .conflict
      else .ok { given with flags := given.flags ++ [flag] } := by
  rw [addFlag, settle_eq settled]
  simp [bind, Except.bind, notHelp, pure, Except.pure, throw, throwThe, MonadExceptOf.throw]

/-- The long name of a flag that a command accepts adds this flag. -/
theorem addWord_named (known : signature.flagNamed? flag.name = some flag) :
    given.addWord signature ("--".toList ++ flag.name) = given.addFlag flag := by
  have whole : splitValue flag.name = (flag.name, none) := by cases flag <;> rfl
  have noStemmer : (flag.name == stemmerOption) = false := by cases flag <;> rfl
  change given.addWord signature ('-' :: '-' :: flag.name) = _
  simp only [addWord, whole, addNamed, noStemmer, Bool.and_false, Bool.false_eq_true, if_false,
    known]

/-- Reading goes on with the remaining words once the first one is added. -/
theorem read_word {word : Text} (notEnd : word ≠ "--".toList) :
    given.read signature (word :: rest) =
      given.addWord signature word >>= fun next => next.read signature rest := by
  rw [read, if_neg (by simpa using notEnd)]

/-- No long name of a flag ends the options. -/
theorem named_ne_end (flag : Flag) : "--".toList ++ flag.name ≠ "--".toList := by
  cases flag <;> decide

/-- A stemmer that is named in the word of its option does not end the options. -/
theorem inline_ne_end (name : Text) : "--stemmer=".toList ++ name ≠ "--".toList := by
  rintro ⟨⟩

/-- A flag is set by its word. -/
theorem read_flagWords (wanted : Bool) (settled : given.waiting = none)
    (isNew : flag ∉ given.flags) (notHelp : flag ≠ .help)
    (known : signature.flagNamed? flag.name = some flag) :
    given.read signature (flagWords flag wanted ++ rest) =
      { given with
        flags := given.flags ++ if wanted then [flag] else [] }.read signature rest := by
  cases wanted with
  | false => simp [flagWords]
  | true =>
      change given.read signature (("--".toList ++ flag.name) :: rest) = _
      rw [read_word (named_ne_end flag), addWord_named known, addFlag_eq settled notHelp,
        if_neg isNew]
      rfl

/-- The stemmer is chosen by a word that holds its name. -/
theorem read_stemmer {name : Text} (takes : signature.takesStemmer = true)
    (settled : given.waiting = none) (isNew : given.stemmer = none) :
    given.read signature (("--stemmer=".toList ++ name) :: rest) =
      { given with stemmer := some name }.read signature rest := by
  have parts : splitValue ("stemmer=".toList ++ name) = (stemmerOption, some name) := rfl
  have added : given.addWord signature ("--stemmer=".toList ++ name) =
      .ok { given with stemmer := some name } := by
    change given.addWord signature ('-' :: '-' :: ("stemmer=".toList ++ name)) = _
    simp only [addWord, parts, addNamed, takes, beq_self_eq_true, Bool.and_self, if_true]
    simp [addStemmer, settle, settled, isNew, bind, Except.bind]
  rw [read_word (inline_ne_end name), added]
  rfl

/-- Any number of queries can be added in order where their number is not limited. -/
theorem foldlM_addQuery (unlimited : signature.maxQueries = none) (settled : given.waiting = none)
    (queries : List Text) :
    queries.foldlM (addQuery signature) given =
      .ok { given with queries := given.queries ++ queries } := by
  induction queries generalizing given with
  | nil => simp [pure, Except.pure]
  | cons query queries inductionHypothesis =>
      have added : given.addQuery signature query =
          .ok { given with queries := given.queries ++ [query] } := by
        simp [addQuery, unlimited, settle, settled, bind, Except.bind, pure, Except.pure]
      have following :=
        @inductionHypothesis { given with queries := given.queries ++ [query] } settled
      rw [List.append_assoc] at following
      rw [List.foldlM_cons, added]
      exact following

/-- Behind `--` every word is a query. -/
theorem read_queries (unlimited : signature.maxQueries = none) (settled : given.waiting = none)
    (queries : List Text) :
    given.read signature ("--".toList :: queries) =
      .ok { given with queries := given.queries ++ queries } := by
  rw [read, if_pos (beq_self_eq_true _), foldlM_addQuery unlimited settled]
  simp [settle, settled, bind, Except.bind]

end Given

namespace ConvertRequest

/-- Words that make a request: its options, and behind `--` its queries. -/
def words (request : ConvertRequest) : List Text :=
  let chosen := match request.stemmer with
    | none => []
    | some name => ["--stemmer=".toList ++ name]
  "convert".toList :: (Given.flagWords .strict request.strict ++
    (Given.flagWords .lenient request.lenient ++ (Given.flagWords .anyCase request.anyCase ++
      (Given.flagWords .json request.json ++ (chosen ++ "--".toList :: request.queries)))))

/-- The flags that a request sets. -/
def flags (request : ConvertRequest) : List Flag :=
  (if request.strict then [.strict] else []) ++ (if request.lenient then [.lenient] else []) ++
    (if request.anyCase then [.anyCase] else []) ++ (if request.json then [.json] else [])

/-- The flags of a request are the switches that are on. -/
theorem contains_flags (request : ConvertRequest) :
    request.flags.contains .strict = request.strict ∧
    request.flags.contains .lenient = request.lenient ∧
    request.flags.contains .anyCase = request.anyCase ∧
    request.flags.contains .json = request.json := by
  obtain ⟨queries, strict, lenient, anyCase, stemmer, json⟩ := request
  cases strict <;> cases lenient <;> cases anyCase <;> cases json <;> exact ⟨rfl, rfl, rfl, rfl⟩

/-- Words with the options and the queries of a request are read as this request. -/
theorem readConvert_eq {request : ConvertRequest} {words : List Text} {given : Given}
    (isRead : Given.nothing.read .convert words = .ok given) (filled : request.queries ≠ [])
    (compatible : ¬(request.strict = true ∧ request.lenient = true))
    (sameFlags : ∀ flag, flag ∈ given.flags ↔ flag ∈ request.flags)
    (sameStemmer : given.stemmer = request.stemmer)
    (sameQueries : given.queries = request.queries) :
    Command.readConvert words = .ok (.convert request) := by
  have has (flag : Flag) : given.flags.contains flag = request.flags.contains flag := by
    rw [Bool.eq_iff_iff, List.contains_iff_mem, List.contains_iff_mem, sameFlags]
  obtain ⟨strict, lenient, anyCase, json⟩ := request.contains_flags
  unfold Command.readConvert
  rw [isRead]
  simp only [bind, Except.bind, has, strict, lenient, anyCase, json, sameStemmer, sameQueries]
  rw [if_neg (by simpa using compatible), if_neg (by simpa using filled)]
  rfl

/-- The words of a request are read as what it says. -/
theorem read_words (request : ConvertRequest) :
    Given.nothing.read .convert request.words.tail =
      .ok ⟨request.flags, request.stemmer, request.queries, none⟩ := by
  obtain ⟨queries, strict, lenient, anyCase, stemmer, json⟩ := request
  rw [words, List.tail_cons, Given.read_flagWords strict rfl (by decide) (by decide) rfl,
    Given.read_flagWords lenient rfl (by cases strict <;> decide) (by decide) rfl,
    Given.read_flagWords anyCase rfl (by cases strict <;> cases lenient <;> decide) (by decide) rfl,
    Given.read_flagWords json rfl
      (by cases strict <;> cases lenient <;> cases anyCase <;> decide) (by decide) rfl]
  cases stemmer with
  | none => exact Given.read_queries rfl rfl queries
  | some name =>
      exact (Given.read_stemmer rfl rfl rfl).trans (Given.read_queries rfl rfl queries)

/-- Every request with queries that does not ask for both modes can be made. -/
theorem ofArguments_words {request : ConvertRequest} (filled : request.queries ≠ [])
    (compatible : ¬(request.strict = true ∧ request.lenient = true)) :
    Command.ofArguments request.words = .ok (.convert request) := by
  change Command.readConvert request.words.tail = _
  exact readConvert_eq request.read_words filled compatible (fun _ => Iff.rfl) rfl rfl

end ConvertRequest

namespace Command

/-- Words that ask for the tokens of a query. -/
def listingWords (query : Text) (anyCase : Bool) : List Text :=
  "tokens".toList :: (Given.flagWords .anyCase anyCase ++ ["--".toList, query])

/-- The tokens of every query can be asked for, whatever the query looks like. -/
theorem ofArguments_listingWords (query : Text) (anyCase : Bool) :
    ofArguments (listingWords query anyCase) = .ok (.tokens query anyCase) := by
  cases anyCase <;> rfl

end Command
end BoolQuery
