import BoolQuery.Proofs.Command.Arguments
import Mathlib.Data.List.Nodup

/-!
# Requests in any spelling and order

`Wording` says which words ask for a conversion: options in any order and spelling, queries between
them unless they look like options, and behind `--` whatever queries are left. A value that stands
in a word of its own is settled only by the word behind it, so reading is compared with reading from
the settled state (`Wording.read_settle`). From there every option is either new or given for the
second time (`add_ofChoices`), and one induction over the words says what they mean
(`Wording.read_ofChoices`).
-/

namespace BoolQuery

/-- An option that was chosen for a conversion. -/
inductive Choice where
  | flag (flag : Flag)
  | stemmer (name : Text)
deriving DecidableEq, Repr

namespace Choice

/-- The flag that is chosen. There is one option without a flag, so this tells options apart. -/
def flag? : Choice → Option Flag
  | .flag chosen => some chosen
  | .stemmer _ => none

/-- The stemmer that is chosen. -/
def stemmer? : Choice → Option Text
  | .flag _ => none
  | .stemmer name => some name

/-- The words that choose an option. A stemmer stands behind an equals sign, or in a word of its own
if it does not start with a dash. -/
inductive Spells : Choice → List Text → Prop where
  | named {flag : Flag} (selectable : flag ∈ [.strict, .lenient, .anyCase, .json]) :
      Spells (.flag flag) ["--".toList ++ flag.name]
  | letter : Spells (.flag .anyCase) ["-i".toList]
  | inline (name : Text) : Spells (.stemmer name) ["--stemmer=".toList ++ name]
  | apart {name : Text} (noDash : name.head? ≠ some '-') :
      Spells (.stemmer name) ["--stemmer".toList, name]

end Choice

/-- The words behind the name of the command make these choices and name these queries, both in the
given order. Among the options stand only queries that start with no dash, or are a dash. -/
inductive Wording : List Choice → List Text → List Text → Prop where
  | nothing : Wording [] [] []
  | behind (queries : List Text) : Wording [] queries ("--".toList :: queries)
  | choice {choice : Choice} {choices : List Choice} {queries words rest : List Text}
      (spells : choice.Spells words) (later : Wording choices queries rest) :
      Wording (choice :: choices) queries (words ++ rest)
  | query {query : Text} {choices : List Choice} {queries rest : List Text}
      (plain : query.head? ≠ some '-' ∨ query = ['-']) (later : Wording choices queries rest) :
      Wording choices (query :: queries) (query :: rest)

namespace Given

variable {given next : Given} {signature : Signature} {flag : Flag} {word : Text}
  {rest : List Text}

/-- The meaning of words with one more choice. -/
def add (given : Given) : Choice → Except UsageError Given
  | .flag chosen => given.addFlag chosen
  | .stemmer name => given.addStemmer (some name)

/-- What words mean that make these choices and name these queries. -/
def ofChoices (choices : List Choice) (queries : List Text) : Given :=
  ⟨choices.filterMap Choice.flag?, choices.findSome? Choice.stemmer?, queries, none⟩

/-! ### Settling -/

/-- Once an option is settled none is waiting. -/
theorem waiting_of_settle (settled : given.settle = .ok next) : next.waiting = none := by
  unfold settle at settled
  split at settled
  · next noneWaits =>
      cases settled
      exact noneWaits
  · cases settled
  · split at settled <;> cases settled
    rfl

/-- An action that settles first may as well be given a settled state. -/
theorem settle_bind_settle {α : Type} (act : Given → Except UsageError α) :
    given.settle >>= act = given.settle >>= fun next => next.settle >>= act := by
  cases settled : given.settle with
  | error error => rfl
  | ok next =>
      change act next = next.settle >>= act
      rw [settle_eq (waiting_of_settle settled)]
      rfl

/-- Settling for the second time changes nothing. -/
theorem settle_settle : given.settle = given.settle >>= settle := by
  simpa using @settle_bind_settle given Given pure

/-- A flag settles the option that waits before it is added. -/
theorem addFlag_settle (flag : Flag) :
    given.addFlag flag = given.settle >>= fun next => next.addFlag flag :=
  settle_bind_settle _

/-- A stemmer settles the option that waits before it is added. -/
theorem addStemmer_settle (value : Option Text) :
    given.addStemmer value = given.settle >>= fun next => next.addStemmer value :=
  settle_bind_settle _

/-- A query settles the option that waits before it is added. -/
theorem addQuery_settle (query : Text) :
    given.addQuery .convert query = given.settle >>= fun next => next.addQuery .convert query :=
  settle_bind_settle _

/-! ### The words of options and queries -/

/-- Everything behind `--` is a query. -/
theorem read_end :
    given.read signature ("--".toList :: rest) =
      rest.foldlM (addQuery signature) given >>= settle := by
  rw [read, if_pos (beq_self_eq_true _)]

/-- A word that starts like no option does not end the options. -/
theorem ne_end_of_plain (plain : word.head? ≠ some '-' ∨ word = ['-']) : word ≠ "--".toList := by
  rintro rfl
  exact absurd plain (by decide)

/-- The long name of a flag adds this flag. -/
theorem addWord_selectable (selectable : flag ∈ [.strict, .lenient, .anyCase, .json]) :
    given.addWord .convert ("--".toList ++ flag.name) = given.addFlag flag := by
  refine addWord_named ?_
  revert flag
  decide

/-- The letter `i` adds the flag for the case of keywords. -/
theorem addWord_letter : given.addWord .convert "-i".toList = given.addFlag .anyCase := by
  change given.addFlag .anyCase >>= pure = _
  rw [bind_pure]

/-- A stemmer may be named in the word of its option, behind a sign of equality. -/
theorem addWord_inline (name : Text) :
    given.addWord .convert ("--stemmer=".toList ++ name) = given.addStemmer (some name) :=
  rfl

/-- The option for a stemmer alone waits for the name in the next word. -/
theorem addWord_apart : given.addWord .convert "--stemmer".toList = given.addStemmer none :=
  rfl

/-- A word that does not look like an option is the value that is waited for, or a query. -/
theorem addWord_plain (plain : word.head? ≠ some '-' ∨ word = ['-']) :
    given.addWord signature word =
      if given.waiting = some none then .ok { given with waiting := some (some word) }
      else given.addQuery signature word := by
  unfold addWord
  split
  · simp at plain
  · simp at plain
  · simp only [beq_iff_eq]

/-- A word that starts like no option settles what waits, unless a name is missing. -/
theorem addWord_plain_settle (plain : word.head? ≠ some '-' ∨ word = ['-'])
    (complete : given.waiting ≠ some none) :
    given.addWord .convert word = given.settle >>= fun next => next.addWord .convert word := by
  rw [addWord_plain plain, if_neg complete, addQuery_settle]
  cases settled : given.settle with
  | error error => rfl
  | ok next =>
      have noneWaits : next.waiting ≠ some none := by
        rw [waiting_of_settle settled]
        exact nofun
      change next.addQuery .convert word = next.addWord .convert word
      rw [addWord_plain plain, if_neg noneWaits]

/-- Reading settles what waits if the first word does so. -/
theorem read_settle_of_addWord (notEnd : word ≠ "--".toList)
    (adds : given.addWord .convert word =
      given.settle >>= fun next => next.addWord .convert word) :
    given.read .convert (word :: rest) =
      given.settle >>= fun next => next.read .convert (word :: rest) := by
  simp only [read_word notEnd]
  rw [adds, bind_assoc]

end Given

namespace Wording

variable {given : Given} {choice : Choice} {choices : List Choice}
  {queries words rest : List Text}

/-- If no option waits for the word behind it, the words are read the same from the settled
state. -/
theorem read_settle (wording : Wording choices queries words)
    (complete : given.waiting ≠ some none) :
    given.read .convert words = given.settle >>= fun next => next.read .convert words := by
  cases wording with
  | nothing => exact Given.settle_settle
  | behind queries =>
      simp only [Given.read_end]
      cases queries with
      | nil => exact Given.settle_settle
      | cons query queries =>
          simp only [List.foldlM_cons]
          rw [Given.addQuery_settle]
          simp only [bind_assoc]
  | choice spells later =>
      cases spells with
      | @named flag selectable =>
          refine Given.read_settle_of_addWord (Given.named_ne_end flag) ?_
          simp only [Given.addWord_selectable selectable]
          exact Given.addFlag_settle flag
      | letter =>
          refine Given.read_settle_of_addWord (by decide) ?_
          simp only [Given.addWord_letter]
          exact Given.addFlag_settle _
      | inline name =>
          exact Given.read_settle_of_addWord (Given.inline_ne_end name) (Given.addStemmer_settle _)
      | apart noDash => exact Given.read_settle_of_addWord (by decide) (Given.addStemmer_settle _)
  | query plain later =>
      exact Given.read_settle_of_addWord (Given.ne_end_of_plain plain)
        (Given.addWord_plain_settle plain complete)

/-- The words of an option are read as the choice of it, whichever words these are. -/
theorem read_spells (spells : choice.Spells words) (later : Wording choices queries rest)
    (settled : given.waiting = none) :
    given.read .convert (words ++ rest) =
      given.add choice >>= fun next => next.read .convert rest := by
  cases spells with
  | @named flag selectable =>
      change given.read .convert (("--".toList ++ flag.name) :: rest) = _
      rw [Given.read_word (Given.named_ne_end flag), Given.addWord_selectable selectable]
      rfl
  | letter =>
      change given.read .convert ("-i".toList :: rest) = _
      rw [Given.read_word (by decide), Given.addWord_letter]
      rfl
  | inline name =>
      change given.read .convert (("--stemmer=".toList ++ name) :: rest) = _
      rw [Given.read_word (Given.inline_ne_end name), Given.addWord_inline]
      rfl
  | @apart name noDash =>
      -- The word behind the option is its value, which the rest of the words settles.
      have notEnd := Given.ne_end_of_plain (.inl noDash)
      change given.read .convert ("--stemmer".toList :: name :: rest) = _
      rw [Given.read_word (by decide), Given.addWord_apart, Given.addStemmer,
        Given.settle_eq settled]
      change Given.read .convert { given with waiting := some none } (name :: rest) = _
      rw [Given.read_word notEnd, Given.addWord_plain (.inl noDash), if_pos rfl]
      change Given.read .convert { given with waiting := some (some name) } rest = _
      rw [later.read_settle (by simp), Given.add, Given.addStemmer, Given.settle_eq settled]
      rfl

/-- A query that does not look like an option is read as a query. -/
theorem read_query {query : Text} (plain : query.head? ≠ some '-' ∨ query = ['-'])
    (settled : given.waiting = none) :
    given.read .convert (query :: rest) =
      { given with queries := given.queries ++ [query] }.read .convert rest := by
  have noneWaits : given.waiting ≠ some none := by
    rw [settled]
    exact nofun
  rw [Given.read_word (Given.ne_end_of_plain plain), Given.addWord_plain plain, if_neg noneWaits,
    Given.addQuery, Given.settle_eq settled]
  rfl

end Wording

namespace Given

variable {choices : List Choice} {queries : List Text}

/-- The flags that choices add up to are those chosen. -/
theorem mem_flags_ofChoices {flag : Flag} :
    flag ∈ (ofChoices choices queries).flags ↔ some flag ∈ choices.map Choice.flag? := by
  simp [ofChoices]

/-- A stemmer is given if one is chosen. -/
theorem stemmer_ofChoices_isSome :
    (ofChoices choices queries).stemmer.isSome ↔ none ∈ choices.map Choice.flag? := by
  rw [ofChoices, List.findSome?_isSome_iff, List.mem_map]
  refine exists_congr fun choice => and_congr_right fun _ => ?_
  cases choice <;> simp [Choice.flag?, Choice.stemmer?]

/-- A second stemmer is a conflict, and the first one is taken. -/
theorem add_stemmer {given : Given} {name : Text} (settled : given.waiting = none) :
    given.add (.stemmer name) = if given.stemmer.isSome then .error .conflict
      else .ok { given with stemmer := some name } := by
  rw [add, addStemmer, settle_eq settled]
  obtain ⟨flags, stemmer, queries, waiting⟩ := given
  cases settled
  rfl

/-- An option is new or given for the second time. -/
theorem add_ofChoices {choice : Choice} (notHelp : choice ≠ .flag .help) :
    (ofChoices choices queries).add choice =
      if choice.flag? ∈ choices.map Choice.flag? then .error .conflict
      else .ok (ofChoices (choices ++ [choice]) queries) := by
  cases choice with
  | flag chosen =>
      have added : ofChoices (choices ++ [.flag chosen]) queries =
          { ofChoices choices queries with
            flags := (ofChoices choices queries).flags ++ [chosen] } := by
        simp [ofChoices, Choice.flag?, Choice.stemmer?, List.findSome?_append]
      rw [add, addFlag_eq rfl (by rintro rfl; exact notHelp rfl), added]
      simp only [mem_flags_ofChoices]
      rfl
  | stemmer name =>
      have chosen := @stemmer_ofChoices_isSome choices queries
      rw [add_stemmer rfl]
      by_cases again : none ∈ choices.map Choice.flag?
      · exact (if_pos (chosen.mpr again)).trans (if_pos again).symm
      · have noStemmer : choices.findSome? Choice.stemmer? = none :=
          Option.not_isSome_iff_eq_none.mp fun isSome => again (chosen.mp isSome)
        have added : ofChoices (choices ++ [.stemmer name]) queries =
            { ofChoices choices queries with stemmer := some name } := by
          simp [ofChoices, Choice.flag?, Choice.stemmer?, List.findSome?_append, noStemmer]
        rw [added]
        exact (if_neg fun isSome => again (chosen.mp isSome)).trans (if_neg again).symm

end Given

namespace Wording

variable {choices earlier : List Choice} {queries asked words : List Text}

/-- No choice is spelled like a request for help. -/
theorem ne_help {choice : Choice} (spells : choice.Spells words) : choice ≠ .flag .help := by
  cases spells with
  | named selectable =>
      rintro ⟨⟩
      exact absurd selectable (by decide)
  | letter | inline | apart => exact nofun

/-- Behind choices of different options the words are read as the further choices they make, and are
refused exactly if one of these is of an option that was chosen before. -/
theorem read_ofChoices (wording : Wording choices queries words)
    (distinct : (earlier.map Choice.flag?).Nodup) :
    (Given.ofChoices earlier asked).read .convert words =
      if ((earlier ++ choices).map Choice.flag?).Nodup then
        .ok (Given.ofChoices (earlier ++ choices) (asked ++ queries))
      else .error .conflict := by
  -- What was chosen and asked before grows with the words that have been read.
  induction wording generalizing earlier asked with
  | nothing =>
      rw [List.append_nil, List.append_nil, if_pos distinct]
      rfl
  | behind queries =>
      rw [Given.read_queries rfl rfl, List.append_nil, if_pos distinct]
      rfl
  | @choice choice choices queries words rest spells later inductionHypothesis =>
      rw [read_spells spells later rfl, Given.add_ofChoices (ne_help spells)]
      by_cases again : choice.flag? ∈ earlier.map Choice.flag?
      · have repeated : ¬((earlier ++ choice :: choices).map Choice.flag?).Nodup := by
          rw [List.map_append, List.nodup_append]
          rintro ⟨_, _, apart⟩
          exact apart _ again _ List.mem_cons_self rfl
        rw [if_pos again, if_neg repeated]
        rfl
      · have stillDistinct : ((earlier ++ [choice]).map Choice.flag?).Nodup := by
          rw [List.map_append, List.map_singleton, ← List.concat_eq_append]
          exact List.Nodup.concat again distinct
        rw [if_neg again]
        have following := @inductionHypothesis (earlier ++ [choice]) asked stillDistinct
        rw [List.append_assoc] at following
        exact following
  | @query query choices queries rest plain later inductionHypothesis =>
      rw [read_query plain rfl]
      have following := @inductionHypothesis earlier (asked ++ [query]) distinct
      rw [List.append_assoc] at following
      exact following

end Wording

namespace ConvertRequest

/-- The options that a request chooses. -/
def choices (request : ConvertRequest) : List Choice :=
  request.flags.map .flag ++ (request.stemmer.map .stemmer).toList

variable {request : ConvertRequest} {order : List Choice} {words : List Text}

/-- A request names no flag twice. -/
theorem nodup_flags (request : ConvertRequest) : request.flags.Nodup := by
  obtain ⟨queries, strict, lenient, anyCase, stemmer, json⟩ := request
  cases strict <;> cases lenient <;> cases anyCase <;> cases json <;> simp [flags]

/-- The choices of a request are its flags and at most one stemmer. -/
theorem map_flag?_choices (request : ConvertRequest) :
    request.choices.map Choice.flag? =
      request.flags.map some ++ (request.stemmer.map fun _ => none).toList := by
  rw [choices, List.map_append, List.map_map]
  cases request.stemmer <;> rfl

/-- A request chooses no option twice. -/
theorem nodup_choices (request : ConvertRequest) : (request.choices.map Choice.flag?).Nodup := by
  rw [map_flag?_choices]
  have distinct : (request.flags.map some).Nodup :=
    List.Nodup.map (fun _ _ => Option.some.inj) request.nodup_flags
  cases request.stemmer with
  | none => simpa using distinct
  | some name =>
      rw [Option.map_some, Option.toList_some, ← List.concat_eq_append]
      exact List.Nodup.concat (by simp) distinct

/-- The order of choices does not matter for which flags they set. -/
theorem mem_flags_of_perm (perm : order.Perm request.choices) {flag : Flag} :
    flag ∈ (Given.ofChoices order request.queries).flags ↔ flag ∈ request.flags := by
  rw [Given.mem_flags_ofChoices, (perm.map Choice.flag?).mem_iff, map_flag?_choices]
  cases request.stemmer <;> simp

/-- Every choice of a request can be spelled. -/
theorem exists_spells {choice : Choice} (member : choice ∈ request.choices) :
    ∃ words, choice.Spells words := by
  cases choice with
  | stemmer name => exact ⟨_, .inline name⟩
  | flag chosen =>
      have chosenFlag : chosen ∈ request.flags := by
        simpa [choices] using member
      refine ⟨_, .named ?_⟩
      obtain ⟨queries, strict, lenient, anyCase, stemmer, json⟩ := request
      simp only [flags, List.mem_append, List.mem_ite_nil_right, List.mem_singleton] at chosenFlag
      rcases chosenFlag with ((⟨_, rfl⟩ | ⟨_, rfl⟩) | ⟨_, rfl⟩) | ⟨_, rfl⟩ <;> decide

/-- Choices that can be spelled can be worded together with any queries. -/
theorem exists_wording (queries : List Text)
    (spelled : ∀ choice ∈ order, ∃ words, choice.Spells words) :
    ∃ words, Wording order queries words := by
  induction order with
  | nil => exact ⟨_, .behind queries⟩
  | cons choice order inductionHypothesis =>
      obtain ⟨words, spells⟩ := spelled choice List.mem_cons_self
      obtain ⟨rest, later⟩ := inductionHypothesis fun other member =>
        spelled other (List.mem_cons_of_mem choice member)
      exact ⟨words ++ rest, .choice spells later⟩

/-- The stemmer among the choices of a request is the one that it names. -/
theorem mem_choices_stemmer {name : Text} :
    .stemmer name ∈ request.choices ↔ request.stemmer = some name := by
  rw [choices]
  cases request.stemmer <;> simp [eq_comm]

/-- In any order the options choose the same stemmer, since no other one is chosen. -/
theorem stemmer_of_perm (perm : order.Perm request.choices) :
    (Given.ofChoices order request.queries).stemmer = request.stemmer := by
  change order.findSome? Choice.stemmer? = _
  cases found : order.findSome? Choice.stemmer? with
  | none =>
      cases chosen : request.stemmer with
      | none => rfl
      | some name =>
          have member := perm.mem_iff.mpr (mem_choices_stemmer.mpr chosen)
          have unseen := List.findSome?_eq_none_iff.mp found _ member
          cases unseen
  | some name =>
      obtain ⟨choice, member, chosen⟩ := List.exists_of_findSome?_eq_some found
      cases choice with
      | flag chosenFlag => cases chosen
      | stemmer other =>
          cases chosen
          exact (mem_choices_stemmer.mp (perm.mem_iff.mp member)).symm

/-- What reads as the options of a request and its queries is that request. -/
theorem readConvert_of_perm (filled : request.queries ≠ [])
    (compatible : ¬(request.strict = true ∧ request.lenient = true))
    (perm : order.Perm request.choices)
    (isRead : Given.nothing.read .convert words = .ok (Given.ofChoices order request.queries)) :
    Command.readConvert words = .ok (.convert request) :=
  readConvert_eq isRead filled compatible (fun _ => mem_flags_of_perm perm) (stemmer_of_perm perm)
    rfl

end ConvertRequest

namespace Wording

variable {choices : List Choice} {queries words : List Text}

/-- Words are refused if they choose an option twice, and mean what they say otherwise. -/
theorem read_nothing (wording : Wording choices queries words) :
    Given.nothing.read .convert words =
      if (choices.map Choice.flag?).Nodup then .ok (Given.ofChoices choices queries)
      else .error .conflict :=
  @read_ofChoices choices [] queries [] words wording List.nodup_nil

/-- A wording of choices that repeat each other, or that ask for both modes, is refused. -/
theorem readConvert_conflict (wording : Wording choices queries words)
    (clash : ¬(choices.map Choice.flag?).Nodup ∨
      (.flag .strict ∈ choices ∧ .flag .lenient ∈ choices)) :
    Command.readConvert words = .error .conflict := by
  have isRead := wording.read_nothing
  unfold Command.readConvert
  by_cases distinct : (choices.map Choice.flag?).Nodup
  · obtain ⟨strict, lenient⟩ := clash.resolve_left (not_not_intro distinct)
    have isStrict : Flag.strict ∈ (Given.ofChoices choices queries).flags :=
      Given.mem_flags_ofChoices.mpr (List.mem_map_of_mem strict)
    have isLenient : Flag.lenient ∈ (Given.ofChoices choices queries).flags :=
      Given.mem_flags_ofChoices.mpr (List.mem_map_of_mem lenient)
    rw [isRead, if_pos distinct]
    simp only [bind, Except.bind]
    rw [if_pos (by simp [isStrict, isLenient])]
    rfl
  · rw [isRead, if_neg distinct]
    rfl

end Wording

namespace ConvertRequest

/-- Every request with queries that does not ask for both modes can be made, with its options in any
order, and is what any words for it are read as: however the options are spelled, and whichever
queries stand among them. Words that choose one option twice or both modes are refused for this
reason. -/
theorem ofArguments_wording :
    (∀ (request : ConvertRequest) (order : List Choice), request.queries ≠ [] →
      ¬(request.strict = true ∧ request.lenient = true) → order.Perm request.choices →
      (∃ words, Wording order request.queries words) ∧
      ∀ words, Wording order request.queries words →
        Command.ofArguments ("convert".toList :: words) = .ok (.convert request)) ∧
    (∀ (choices : List Choice) (queries words : List Text), Wording choices queries words →
      ¬(choices.map Choice.flag?).Nodup ∨ (.flag .strict ∈ choices ∧ .flag .lenient ∈ choices) →
      Command.ofArguments ("convert".toList :: words) = .error .conflict) := by
  refine ⟨fun request order filled compatible perm => ⟨?_, fun words wording => ?_⟩,
    fun choices queries words wording clash => ?_⟩
  · exact exists_wording _ fun choice member => exists_spells (perm.mem_iff.mp member)
  · have isRead := wording.read_nothing
    rw [if_pos ((perm.map Choice.flag?).nodup_iff.mpr request.nodup_choices)] at isRead
    exact readConvert_of_perm filled compatible perm isRead
  · exact wording.readConvert_conflict clash

/-- A dash is a query among the options. Words that look like options or end the options are queries
behind the end of the options, and the value of an option where they stand behind its equals
sign. -/
theorem ofArguments_wording_of_mixed :
    let request : ConvertRequest :=
      ⟨["-".toList, [], "--strict".toList, "--".toList], true, false, true, some "--".toList, false⟩
    let order : List Choice := [.stemmer "--".toList, .flag .anyCase, .flag .strict]
    let words : List Text := ["-".toList, "--stemmer=--".toList, "-i".toList, [],
      "--strict".toList, "--".toList, "--strict".toList, "--".toList]
    let clashing : List Choice := [.stemmer "a".toList, .flag .strict, .flag .lenient]
    let refused : List Text :=
      ["--stemmer".toList, "a".toList, "--strict".toList, "--lenient".toList]
    (request.queries ≠ [] ∧ ¬(request.strict = true ∧ request.lenient = true) ∧
      order.Perm request.choices ∧ Wording order request.queries words ∧
      Command.ofArguments ("convert".toList :: words) = .ok (.convert request)) ∧
    Wording clashing [] refused ∧ (.flag .strict ∈ clashing ∧ .flag .lenient ∈ clashing) ∧
      Command.ofArguments ("convert".toList :: refused) = .error .conflict := by
  intro request order words clashing refused
  obtain ⟨made, clash⟩ := ofArguments_wording
  have filled : request.queries ≠ [] := nofun
  have compatible : ¬(request.strict = true ∧ request.lenient = true) := nofun
  have perm : order.Perm request.choices := by decide
  have wording : Wording order request.queries words :=
    .query (.inr rfl) (.choice (.inline "--".toList) (.choice .letter (.query (.inl nofun)
      (.choice (.named (by decide)) (.behind ["--strict".toList, "--".toList])))))
  have refusedWording : Wording clashing [] refused :=
    .choice (.apart (by decide)) (.choice (.named (by decide))
      (.choice (.named (by decide)) .nothing))
  have both : .flag .strict ∈ clashing ∧ .flag .lenient ∈ clashing := by decide
  exact ⟨⟨filled, compatible, perm, wording, (made request order filled compatible perm).2 words
    wording⟩, refusedWording, both, clash clashing [] refused refusedWording (.inr both)⟩

end ConvertRequest
end BoolQuery
