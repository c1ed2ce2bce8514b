import BoolQuery.Command.Run
import BoolQuery.Proofs.Command.Arguments
import BoolQuery.Proofs.Settings.Additions
import BoolQuery.Proofs.Settings.Template

/-!
# What calls of the program do to files

The only command that writes is the one that creates a settings file, and it writes one file at most
(`runInit_creates`). Unless it is told to overwrite, it writes only where there was nothing, and
what it writes says nothing about the settings. So however often the program is called, from
wherever, the tree grows by inert files (`filesAfterAll_grows`): what was there stays, and every
directory keeps its settings (`filesAfterAll_harmless`).
-/

namespace BoolQuery

namespace Command

/-- The path of the file that is created on request. -/
def target (environment : Environment) (global : Bool) : Path :=
  if global || isAtHome environment then environment.globalPath
  else environment.directory.path.child Settings.fileName

/-- What is written into the file that is created on request. -/
def targetContent (environment : Environment) (global : Bool) : ByteArray :=
  let text := if global || isAtHome environment then Template.globalText else Template.localText
  (String.ofList text).toUTF8

/-- What is written into a created file sets nothing. -/
theorem inert_targetContent (environment : Environment) (global : Bool) :
    Inert (targetContent environment global) := by
  unfold targetContent
  refine ⟨_, String.toByteArray_ofList, ?_⟩
  split
  · exact Template.read?_globalText
  · exact Template.read?_localText

/-- A created file has an absolute path if the home directory has one. -/
theorem isAbsolute_target {environment : Environment}
    (absolute : environment.home.isAbsolute = true) (global : Bool) :
    (target environment global).isAbsolute = true := by
  unfold target
  split
  · exact Path.isAbsolute_child absolute _
  · exact Path.isAbsolute_child rfl _

/-- A file is created in the working directory or in the home directory. -/
theorem location_target {environment : Environment} (proper : environment.directory.IsProper)
    (global : Bool) :
    (target environment global).location = environment.directory ++ [Settings.fileName] ∨
      (target environment global).location = environment.home.location ++ [Settings.fileName] := by
  unfold target
  split
  · exact .inr (Path.location_child environment.home Settings.isName_fileName)
  · rw [Path.location_child _ Settings.isName_fileName, Path.location_path proper]
    exact .inl rfl

/-- What a request to create a settings file does: nothing, which is a failure, or it writes the
target, over an existing file only if that is asked for. -/
inductive Creates (environment : Environment) (global force : Bool) (outcome : Outcome) : Prop where
  | nothing (failed : outcome.code ≠ 0) (kept : outcome.files = environment.files)
  | file (location : Location)
      (located : environment.files.locate environment.directory (target environment global) =
        .ok location)
      (absent : force = false → environment.files.entry? location = none)
      (succeeded : outcome.code = 0)
      (written : outcome.files =
        environment.files.put location (.file (targetContent environment global)))

/-- At a path where nothing exists the tree has no entry. -/
theorem absent_of_not_exists {files : FileTree} {directory location : Location} {path : Path}
    (missing : files.exists? directory path = false)
    (located : files.locate directory path = .ok location) : files.entry? location = none := by
  unfold FileTree.exists? FileTree.find at missing
  rw [located] at missing
  cases held : files.entry? location with
  | none => rfl
  | some entry => simp [bind, Except.bind, held, pure, Except.pure] at missing

/-- Writing succeeds only by putting a file at the location of the path. -/
theorem write_eq_ok {files written : FileTree} {directory : Location} {path : Path}
    {content : ByteArray} (succeeded : files.write directory path content = .ok written) :
    ∃ location, files.locate directory path = .ok location ∧
      written = files.put location (.file content) := by
  unfold FileTree.write at succeeded
  cases located : files.locate directory path with
  | error cause => simp [located, bind, Except.bind] at succeeded
  | ok location =>
      rw [located] at succeeded
      simp only [bind, Except.bind] at succeeded
      split at succeeded
      · cases succeeded
      · exact ⟨location, rfl, (Except.ok.inj succeeded).symm⟩

/-- A request for a settings file depends on its target alone: on whether it exists and can be
written. -/
theorem runInit_eq (environment : Environment) (global force : Bool) :
    runInit environment global force =
      let path := target environment global
      if environment.files.exists? environment.directory path && !force then
        ⟨1, [], errorLine ("configuration file already exists: ".toList ++ path.text) ++
          Text.line "use --force to overwrite", environment.files⟩
      else
        match environment.files.write environment.directory path
          (targetContent environment global) with
        | .error cause =>
          ⟨1, [], errorLine ("failed to write ".toList ++ path.text ++ ": ".toList ++
            cause.message), environment.files⟩
        | .ok files => ⟨0, Text.line ("Created ".toList ++ path.text), [], files⟩ := rfl

/-- A request for a settings file creates its target, or it fails and does nothing. -/
theorem runInit_creates (environment : Environment) (global force : Bool) :
    Creates environment global force (runInit environment global force) := by
  rw [runInit_eq]
  dsimp only
  split
  · exact .nothing (by simp) rfl
  · next goesOn =>
      split
      · exact .nothing (by simp) rfl
      · next files succeeded =>
          obtain ⟨location, located, rfl⟩ := write_eq_ok succeeded
          -- The check for an existing file resolves the path that is written to.
          refine .file location located (fun unforced => ?_) rfl rfl
          refine absent_of_not_exists ?_ located
          simpa [unforced] using goesOn

/-! ### Commands that write nothing -/

variable {environment : Environment} {filter : Log.Filter}

/-- Loading settings changes no file, so what acts on them decides. -/
theorem withSettings_files {act : Settings → Outcome}
    (kept : ∀ settings, (act settings).files = environment.files) :
    (withSettings environment filter act).files = environment.files := by
  unfold withSettings
  split
  · rfl
  · exact kept _

/-- Converting queries changes no file. -/
theorem runConvert_files [SuppliedStems] (files : FileTree) (filter : Log.Filter)
    (settings : Settings) (request : ConvertRequest) :
    (runConvert files filter settings request).files = files := by
  unfold runConvert
  split
  · rfl
  · dsimp only
    split <;> rfl

/-- Listing tokens changes no file. -/
theorem runTokens_files (files : FileTree) (settings : Settings) (query : Text) (anyCase : Bool) :
    (runTokens files settings query anyCase).files = files := by
  unfold runTokens
  split <;> rfl

/-- A command leaves the files as they are unless it creates a settings file. -/
theorem run_files [SuppliedStems] (environment : Environment) (filter : Log.Filter)
    (command : Command) :
    (run environment filter command).files = environment.files ∨
      ∃ global force, command = .init global force := by
  cases command with
  | convert request =>
      exact .inl (withSettings_files fun settings => runConvert_files _ filter settings request)
  | tokens query anyCase =>
      exact .inl (withSettings_files fun settings => runTokens_files _ settings query anyCase)
  | init global force => exact .inr ⟨global, force, rfl⟩
  | config => exact .inl (withSettings_files fun settings => rfl)

end Command

/-- A call of the program. -/
structure Invocation where
  /-- The working directory. -/
  directory : Location
  proper : directory.IsProper
  filter : Log.Filter
  arguments : List Text

namespace Invocation

variable {home : Path} {files : FileTree}

/-- What a call finds around it. -/
def environment (invocation : Invocation) (home : Path) (files : FileTree) : Environment :=
  ⟨files, invocation.directory, home⟩

/-- The outcome of a call, unless its words ask for no command. -/
def run [SuppliedStems] (invocation : Invocation) (home : Path) (files : FileTree) :
    Except UsageError Outcome :=
  Command.runArguments (invocation.environment home files) invocation.filter invocation.arguments

/-- The files that a call leaves behind. -/
def filesAfter [SuppliedStems] (home : Path) (files : FileTree) (invocation : Invocation) :
    FileTree :=
  match invocation.run home files with
  | .error _ => files
  | .ok outcome => outcome.files

/-- The files that calls leave behind, one after the other. -/
def filesAfterAll [SuppliedStems] (home : Path) (files : FileTree)
    (invocations : List Invocation) : FileTree :=
  invocations.foldl (filesAfter home) files

/-- A call fails unless its outcome is a success. -/
def Fails [SuppliedStems] (invocation : Invocation) (home : Path) (files : FileTree) : Prop :=
  ∀ outcome, invocation.run home files = .ok outcome → outcome.code ≠ 0

/-- A call asks for a settings file. -/
def IsInit (invocation : Invocation) (global force : Bool) : Prop :=
  Command.ofArguments invocation.arguments = .ok (.init global force)

/-- A call may overwrite a settings file. -/
def IsForced (invocation : Invocation) : Prop :=
  ∃ global, invocation.IsInit global true

/-- The location of a settings file that a call may create. -/
def IsTarget (home : Path) (invocation : Invocation) (location : Location) : Prop :=
  location = invocation.directory ++ [Settings.fileName] ∨
    location = home.location ++ [Settings.fileName]

/-- A call without the word `--force` cannot overwrite a settings file. -/
theorem not_isForced {invocation : Invocation}
    (unasked : "--force".toList ∉ invocation.arguments) : ¬invocation.IsForced :=
  fun ⟨_, isInit⟩ => unasked (Command.force_mem_of_init isInit)

/-- A call leaves the files as they are, or it asks for a settings file. -/
theorem filesAfter_cases [SuppliedStems] (invocation : Invocation) (home : Path)
    (files : FileTree) :
    invocation.filesAfter home files = files ∨
      ∃ global force outcome, invocation.IsInit global force ∧
        invocation.run home files = .ok outcome ∧ invocation.filesAfter home files = outcome.files ∧
        Command.Creates (invocation.environment home files) global force outcome := by
  unfold filesAfter
  cases ran : invocation.run home files with
  | error error => exact .inl rfl
  | ok outcome =>
      cases asked : Command.ofArguments invocation.arguments with
      | error error =>
          rw [run, Command.runArguments, asked] at ran
          cases ran
      | ok command =>
          rw [run, Command.runArguments, asked] at ran
          cases ran
          have effect := Command.run_files (invocation.environment home files) invocation.filter
            command
          rcases effect with kept | ⟨global, force, rfl⟩
          · exact .inl kept
          · exact .inr ⟨global, force, _, asked, rfl, rfl, Command.runInit_creates _ global force⟩

/-- A call that fails leaves the files as they are. -/
theorem filesAfter_of_fails [SuppliedStems] {invocation : Invocation}
    (fails : invocation.Fails home files) : invocation.filesAfter home files = files := by
  rcases filesAfter_cases invocation home files with
    kept | ⟨global, force, outcome, _, ran, after, creates⟩
  · exact kept
  · cases creates with
    | nothing _ kept => exact after.trans kept
    | file _ _ _ succeeded _ => exact absurd succeeded (fails outcome ran)

/-- A call that asks for a settings file touches nothing but its target. -/
theorem entry?_filesAfter_of_isInit [SuppliedStems] {invocation : Invocation}
    {global force : Bool} (absolute : home.isAbsolute = true)
    (isInit : invocation.IsInit global force) {location : Location}
    (other : location ≠ (Command.target (invocation.environment home files) global).location) :
    FileTree.entry? (invocation.filesAfter home files) location = files.entry? location := by
  rcases filesAfter_cases invocation home files with
    kept | ⟨asked, _, outcome, isAsked, _, after, creates⟩
  · rw [kept]
  · obtain ⟨rfl, rfl⟩ : asked = global ∧ _ = force := by
      simpa using isAsked.symm.trans isInit
    rw [after]
    cases creates with
    | nothing _ kept => rw [kept]; rfl
    | file target located _ _ written =>
        have isTarget := FileTree.locate_eq_ok (Command.isAbsolute_target absolute _) located
        rw [written, FileTree.put]
        exact if_neg (by simpa [isTarget] using other)

/-- An unforced call adds at most a file that says nothing, where there was none. -/
theorem filesAfter_grows [SuppliedStems] {invocation : Invocation}
    (absolute : home.isAbsolute = true) (unforced : ¬invocation.IsForced) (files : FileTree) :
    files.Grows (fun location content => invocation.IsTarget home location ∧ Inert content)
      (invocation.filesAfter home files) := by
  rcases filesAfter_cases invocation home files with
    kept | ⟨global, force, outcome, isInit, _, after, creates⟩
  · rw [kept]
    exact .refl files
  · rw [after]
    cases creates with
    | nothing _ kept =>
        rw [kept]
        exact .refl files
    | file location located absent _ written =>
        have notForced : force = false :=
          Bool.eq_false_iff.mpr fun forced => unforced ⟨global, forced ▸ isInit⟩
        have isTarget := FileTree.locate_eq_ok (Command.isAbsolute_target absolute _) located
        rw [written]
        refine .put (absent notForced) ⟨?_, Command.inert_targetContent _ _⟩
        rw [isTarget]
        exact Command.location_target invocation.proper global

/-- Unforced calls add at most files that say nothing, where there was none. -/
theorem filesAfterAll_grows [SuppliedStems] (absolute : home.isAbsolute = true)
    {invocations : List Invocation}
    (unforced : ∀ invocation ∈ invocations, ¬invocation.IsForced) (files : FileTree) :
    files.Grows
      (fun location content =>
        (∃ invocation ∈ invocations, invocation.IsTarget home location) ∧ Inert content)
      (filesAfterAll home files invocations) := by
  induction invocations generalizing files with
  | nil => exact .refl files
  | cons invocation rest inductionHypothesis =>
      obtain ⟨first, others⟩ := List.forall_mem_cons.mp unforced
      -- The later calls start from what the first one leaves behind, whatever that is.
      refine .trans ((filesAfter_grows absolute first files).mono ?_)
        ((inductionHypothesis others _).mono ?_)
      · rintro location content ⟨isTarget, inert⟩
        exact ⟨⟨invocation, List.mem_cons_self, isTarget⟩, inert⟩
      · rintro location content ⟨⟨later, member, isTarget⟩, inert⟩
        exact ⟨⟨later, List.mem_cons_of_mem invocation member, isTarget⟩, inert⟩

/-- Whatever the program is called for and from wherever, as long as it is not told to overwrite:
what was there stays, nothing but settings files in working directories and in the home directory is
added, and for every directory the same settings are loaded, or loading fails with the same error. A
call that fails leaves everything as it was. A call that asks for a settings file touches nothing
else, even if it is told to overwrite. -/
theorem filesAfterAll_harmless [SuppliedStems] {home : Path} (absolute : home.isAbsolute = true)
    (files : FileTree) (invocations : List Invocation) :
    ((∀ invocation ∈ invocations, ¬invocation.IsForced) →
      let after := filesAfterAll home files invocations
      (∀ location entry, files.entry? location = some entry →
        after.entry? location = some entry) ∧
      (∀ location entry, files.entry? location = none → after.entry? location = some entry →
        (∃ content, entry = .file content) ∧
          ∃ invocation ∈ invocations, invocation.IsTarget home location) ∧
      ∀ directory path, ((⟨after, directory, home⟩ : Environment).load path).map Settings.query =
        ((⟨files, directory, home⟩ : Environment).load path).map Settings.query) ∧
    (∀ (invocation : Invocation) before, invocation.Fails home before →
      invocation.filesAfter home before = before) ∧
    ∀ (invocation : Invocation) before global force, invocation.IsInit global force →
      ∀ location, location ≠ (Command.target (invocation.environment home before) global).location →
        FileTree.entry? (invocation.filesAfter home before) location = before.entry? location := by
  refine ⟨fun unforced => ?_, fun invocation before => filesAfter_of_fails,
    fun invocation before global force isInit location =>
      entry?_filesAfter_of_isInit absolute isInit⟩
  have grows := filesAfterAll_grows absolute unforced files
  refine ⟨fun location entry => grows.entry?_eq_some, fun location entry absent found => ?_,
    fun directory path => ?_⟩
  · rcases grows location with kept | ⟨_, content, added, isTarget, _⟩
    · rw [kept, absent] at found
      cases found
    · cases found.symm.trans added
      exact ⟨⟨content, rfl⟩, isTarget⟩
  · have inert : files.Grows (fun _ => Inert) (filesAfterAll home files invocations) :=
      grows.mono fun _ _ allowed => allowed.2
    exact (@Environment.supplements_of_grows ⟨files, directory, home⟩ _ inert).query_load absolute
      path

/-- From the directory `/a/b`, below a settings file in `/a`, settings files are created there and
in the home directory `/`. A call with a surplus word does nothing, and a forced one leaves the
settings file in `/a` alone. -/
theorem filesAfterAll_harmless_of_local_and_global :
    let _ := SuppliedStems.unchanged
    let home : Path := ⟨"/".toList⟩
    let last := "root = true".toList.utf8Encode
    let files := (Environment.holding [(["a".toList], last)] home).files
    let call := fun words => (⟨["a".toList, "b".toList],
      List.forall_mem_cons.mpr ⟨⟨by decide, by decide, by decide⟩,
        List.forall_mem_singleton.mpr ⟨by decide, by decide, by decide⟩⟩, [], words⟩ : Invocation)
    let invocations := [call ["init".toList], call ["init".toList, "--global".toList]]
    ((∃ entry, FileTree.entry? (filesAfterAll home files invocations)
        ["a".toList, "b".toList, Settings.fileName] = some entry) ∧
      (∃ entry, FileTree.entry? (filesAfterAll home files invocations) [Settings.fileName] =
        some entry) ∧
      FileTree.entry? (filesAfterAll home files invocations) ["a".toList, Settings.fileName] =
        some (.file last) ∧
      ∀ directory path,
        ((⟨filesAfterAll home files invocations, directory, home⟩ : Environment).load path).map
            Settings.query =
          ((⟨files, directory, home⟩ : Environment).load path).map Settings.query) ∧
    (call ["init".toList, "b".toList]).filesAfter home files = files ∧
    FileTree.entry? ((call ["init".toList, "--force".toList]).filesAfter home files)
      ["a".toList, Settings.fileName] = some (.file last) := by
  intro _ home last files call invocations
  have existing : files.entry? ["a".toList, Settings.fileName] = some (.file last) := rfl
  have absolute : home.isAbsolute = true := rfl
  obtain ⟨harmless, failing, initializing⟩ := filesAfterAll_harmless absolute files invocations
  refine ⟨?_, failing _ _ ?_, ?_⟩
  · have unforced : ∀ invocation ∈ invocations, ¬invocation.IsForced := by
      intro invocation member
      refine not_isForced ?_
      rcases List.mem_cons.mp member with rfl | member
      · decide
      · rw [List.mem_singleton.mp member]
        decide
    obtain ⟨kept, _, loaded⟩ := harmless unforced
    exact ⟨Option.isSome_iff_exists.mp (by decide +kernel),
      Option.isSome_iff_exists.mp (by decide +kernel), kept _ _ existing, loaded⟩
  · intro outcome ran
    have refused : (call ["init".toList, "b".toList]).run home files =
        .error .unknownArgument := rfl
    rw [refused] at ran
    cases ran
  · have other : ["a".toList, Settings.fileName] ≠ (Command.target
        ((call ["init".toList, "--force".toList]).environment home files) false).location := by
      decide +kernel
    have isInit : (call ["init".toList, "--force".toList]).IsInit false true := rfl
    rw [initializing _ files false true isInit _ other]
    exact existing

end Invocation
end BoolQuery
