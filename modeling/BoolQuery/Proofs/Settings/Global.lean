import BoolQuery.Proofs.Settings.Precedence
import BoolQuery.Proofs.Settings.Search

/-!
# The precedence of the global file

The global file comes last if the search adds it, but the walk may have met it on its way. Then it
stands where it was met, and the files in the directories above the home directory stand behind it
(`exists_passes`), so it takes precedence over them. These are the only files that it ever takes
precedence over, and it is in last place exactly if none of them is reached
(`global_yields_unless_above`).
-/

namespace BoolQuery

namespace Settings

/-- A setting is taken from the first file that defines it. -/
def Decides (files : List SourceLayer) (setting : Setting) (source : SourceLayer) : Prop :=
  files.find? (fun file => (file.value? setting).isSome) = some source

variable {files : List SourceLayer} {setting : Setting} {source : SourceLayer}

/-- A setting has the value from the file that it is taken from. -/
theorem Decides.value?_eq (decides : Decides files setting source) :
    source.value? setting = some ((merge files).query.value setting) := by
  obtain ⟨defined, front, back, rfl, silent⟩ := List.find?_eq_some_iff_append.mp decides
  obtain ⟨value, said⟩ := Option.isSome_iff_exists.mp defined
  have unsaid : front.findSome? (·.value? setting) = none := by
    simpa [List.findSome?_eq_none_iff] using silent
  rw [value_merge, List.findSome?_append, unsaid, List.findSome?_cons, said]
  rfl

/-- No file in front of the one that a setting is taken from defines it. -/
theorem Decides.exists_behind (decides : Decides files setting source) :
    ∃ front back, files = front ++ source :: back ∧
      ∀ other ∈ files, (other.value? setting).isSome = true → other = source ∨ other ∈ back := by
  obtain ⟨_, front, back, rfl, silent⟩ := List.find?_eq_some_iff_append.mp decides
  refine ⟨front, back, rfl, fun other member defined => ?_⟩
  rcases List.mem_append.mp member with nearer | rest
  · have unsaid := silent other nearer
    rw [defined] at unsaid
    cases unsaid
  · exact List.mem_cons.mp rest

end Settings

/-- Steps that are taken together succeed if each of them does. -/
theorem mapM_eq_ok {ε α β : Type} {step : α → Except ε β} {inputs : List α} {results : List β} :
    inputs.mapM step = .ok results ↔
      List.Forall₂ (fun input result => step input = .ok result) inputs results := by
  induction inputs generalizing results with
  | nil => cases results <;> simp [pure, Except.pure]
  | cons input inputs inductionHypothesis =>
      rw [List.mapM_cons]
      cases first : step input with
      | error error => cases results <;> simp [bind, Except.bind, first]
      | ok value =>
          cases others : inputs.mapM step with
          | error error =>
              cases results <;> simp [bind, Except.bind, ← inductionHypothesis, others]
          | ok values =>
              cases results <;>
                simp [bind, Except.bind, pure, Except.pure, ← inductionHypothesis, others, first]

namespace Environment

variable {environment : Environment} {directory path : Path} {front back : List Path}

/-! ### What is loaded -/

/-- The files that settings are put together from. -/
structure Loads (environment : Environment) (directory : Path) (files : List SourceLayer)
    (settings : Settings) : Prop where
  loaded : List.Forall₂ (fun path file => environment.loadLayer path = .ok file)
    (environment.discover directory) files
  merged : settings = Settings.merge files

/-- Settings are loaded exactly if they are put together from some files. -/
theorem load_eq_ok {settings : Settings} :
    environment.load directory = .ok settings ↔
      ∃ files, environment.Loads directory files settings := by
  rw [load, loadFiles]
  constructor
  · intro succeeds
    cases read : (environment.discover directory).mapM environment.loadLayer with
    | error error =>
        rw [read] at succeeds
        cases succeeds
    | ok files =>
        rw [read] at succeeds
        exact ⟨files, mapM_eq_ok.mp read, (Except.ok.inj succeeds).symm⟩
  · rintro ⟨files, loaded, rfl⟩
    rw [mapM_eq_ok.mpr loaded]
    rfl

/-- The files that are loaded are those that are found. -/
theorem Loads.discover_eq {files : List SourceLayer} {settings : Settings}
    (loads : environment.Loads directory files settings) :
    environment.discover directory = files.map SourceLayer.path := by
  have labels := loads.loaded.imp fun path file loaded => (path_of_loadLayer loaded).symm
  exact List.forall₂_eq_eq_eq ▸ List.forall₂_map_right_iff.mpr labels

/-! ### The home directory on the way upward -/

/-- Directories with the same components have the same settings file. -/
theorem isFile_child_congr {left right : Path} (absolute : right.isAbsolute = true)
    (same : left.components = right.components) :
    environment.isFile (left.child Settings.fileName) =
      environment.isFile (right.child Settings.fileName) := by
  rw [isFile_eq, isFile_eq, content?_child_of_same absolute
    ((Path.same_child_iff Settings.isName_fileName).mpr same)]

/-- The walk meets the global file and goes on behind it. -/
structure Passes (environment : Environment) (directory : Path) (front : List Path) (path : Path)
    (back : List Path) : Prop where
  candidates : Settings.candidates directory = front ++ path :: back
  isGlobal : environment.isGlobal path = true
  isFile : environment.isFile path = true
  goesOn : ∀ nearer ∈ front ++ [path], ¬environment.IsLast nearer

/-- Behind the global file, the candidates are those of the directories above the home directory. -/
theorem Passes.exists_home (passes : environment.Passes directory front path back) :
    ∃ place : Path, place.components = environment.home.components ∧
      back = place.parents.map (·.child Settings.fileName) := by
  obtain ⟨nearer, rest, places, rfl, mapped⟩ := List.map_eq_append_iff.mp passes.candidates
  obtain ⟨place, outer, rfl, rfl, rfl⟩ := List.map_eq_cons_iff.mp mapped
  exact ⟨place, (Path.same_child_iff Settings.isName_fileName).mp passes.isGlobal,
    by rw [Path.eq_parents_of_selfAndParents places]⟩

/-- The candidates behind the global file mean those in the parents of the home directory. -/
theorem Passes.exists_above (passes : environment.Passes directory front path back)
    (absolute : environment.home.isAbsolute = true) {outer : Path} (member : outer ∈ back) :
    ∃ place ∈ environment.home.parents, outer.same (place.child Settings.fileName) = true ∧
      environment.isFile outer = environment.isFile (place.child Settings.fileName) := by
  obtain ⟨home, same, rfl⟩ := passes.exists_home
  obtain ⟨above, listed, rfl⟩ := List.mem_map.mp member
  obtain ⟨place, isParent, equal⟩ := Path.exists_parent_of_same same listed
  exact ⟨place, isParent, (Path.same_child_iff Settings.isName_fileName).mpr equal.symm,
    isFile_child_congr (Path.isAbsolute_of_mem_parents absolute isParent) equal.symm⟩

/-- There is something to find behind the global file exactly if there are settings files above the
home directory. -/
theorem Passes.exists_isFile_iff (passes : environment.Passes directory front path back)
    (absolute : environment.home.isAbsolute = true) :
    (∃ outer ∈ back, environment.isFile outer = true) ↔
      ∃ place ∈ environment.home.parents,
        environment.isFile (place.child Settings.fileName) = true := by
  constructor
  · rintro ⟨outer, member, isFile⟩
    obtain ⟨place, isParent, _, agree⟩ := passes.exists_above absolute member
    exact ⟨place, isParent, agree ▸ isFile⟩
  · rintro ⟨place, isParent, isFile⟩
    obtain ⟨home, same, rfl⟩ := passes.exists_home
    obtain ⟨above, listed, equal⟩ := Path.exists_parent_of_same same.symm isParent
    refine ⟨_, List.mem_map_of_mem listed, ?_⟩
    rwa [isFile_child_congr (Path.isAbsolute_of_mem_parents absolute isParent) equal]

/-- The walk finds the files in front of the global one, the global file and those behind it. -/
theorem Passes.walk_eq (passes : environment.Passes directory front path back) :
    environment.walk directory = front.filter environment.isFile ++
      path :: Settings.upToLast environment.endsSearch (back.filter environment.isFile) := by
  have open_ : ∀ nearer ∈ (front ++ [path]).filter environment.isFile,
      environment.endsSearch nearer = false := by
    intro nearer member
    obtain ⟨listed, isFile⟩ := List.mem_filter.mp member
    exact Bool.eq_false_iff.mpr fun ends =>
      passes.goesOn nearer listed (isLast_iff.mpr ⟨isFile, ends⟩)
  change Settings.upToLast _ ((Settings.candidates directory).filter _) = _
  rw [passes.candidates, List.append_cons, List.filter_append, Settings.upToLast_append _ open_,
    List.filter_append, List.filter_singleton, passes.isFile]
  exact (List.append_cons _ path _).symm

/-- Nothing is added to a walk that has met the global file. -/
theorem Passes.discover_eq (passes : environment.Passes directory front path back) :
    environment.discover directory = environment.walk directory := by
  rcases Environment.discover_eq environment directory with ⟨found, _⟩ | ⟨_, _, _, unmet⟩
  · exact found
  · have other := unmet path (passes.walk_eq ▸ by simp)
    cases other.symm.trans passes.isGlobal

/-- If anything is found behind the global file, the walk has met it and gone on. -/
theorem exists_passes (found : environment.discover directory = front ++ path :: back)
    (isGlobal : environment.isGlobal path = true) (behind : back ≠ []) :
    ∃ nearer farther, environment.Passes directory nearer path farther ∧
      back = Settings.upToLast environment.endsSearch (farther.filter environment.isFile) := by
  rcases Environment.discover_eq environment directory with ⟨walked, _⟩ | ⟨added, _, _, unmet⟩
  · rw [walked] at found
    have member : path ∈ environment.walk directory := found ▸ by simp
    obtain ⟨nearer, farther, split⟩ :=
      List.append_of_mem ((walk_sublist environment directory).mem member)
    obtain ⟨isFile, goesOn⟩ := (mem_walk_iff split).mp member
    have notLast : ¬environment.IsLast path := fun last =>
      behind (Settings.eq_nil_of_upToLast found (isLast_iff.mp last).2)
    have passes : environment.Passes directory nearer path farther :=
      ⟨split, isGlobal, isFile, List.forall_mem_append.mpr
        ⟨goesOn, List.forall_mem_singleton.mpr notLast⟩⟩
    refine ⟨nearer, farther, passes, ?_⟩
    -- The walk meets a path once only, so both ways to split it there are the same.
    have once := (Settings.candidates_nodup directory).sublist (walk_sublist environment directory)
    rw [found, List.nodup_middle, List.nodup_cons, List.mem_append, not_or] at once
    exact ((List.append_cons_inj_of_notMem once.1.1 once.1.2).mp
      (found.symm.trans passes.walk_eq)).2.2
  · have other := unmet path (mem_walk_of_append (added.symm.trans found) behind)
    cases other.symm.trans isGlobal

/-! ### The place of the global file -/

/-- Nothing stands behind the global file. -/
def GlobalLast (environment : Environment) (directory : Path) : Prop :=
  ∀ front path back, environment.discover directory = front ++ path :: back →
    environment.isGlobal path = true → back = []

/-- A setting is taken from the global file only if no other file defines it. -/
def GlobalYields (environment : Environment) (directory : Path) : Prop :=
  ∀ files settings, environment.Loads directory files settings →
    ∀ setting source, Settings.Decides files setting source →
      environment.isGlobal source.path = true →
      ∀ other ∈ files, (other.value? setting).isSome = true →
        environment.isGlobal other.path = true

/-- The walk goes on behind the global file. -/
def PassesHome (environment : Environment) (directory : Path) : Prop :=
  ∃ front path back, environment.Passes directory front path back

/-- The global file is the last one unless the walk passes it and finds a file above. -/
theorem globalLast_iff (absolute : environment.home.isAbsolute = true) :
    environment.GlobalLast directory ↔
      ¬(environment.PassesHome directory ∧ ∃ place ∈ environment.home.parents,
        environment.isFile (place.child Settings.fileName) = true) := by
  constructor
  · rintro last ⟨⟨front, path, back, passes⟩, above⟩
    obtain ⟨outer, member, isFile⟩ := (passes.exists_isFile_iff absolute).mpr above
    have nothing := last _ path _ (passes.discover_eq.trans passes.walk_eq) passes.isGlobal
    rw [Settings.upToLast_eq_nil_iff] at nothing
    exact List.not_mem_nil (nothing ▸ List.mem_filter.mpr ⟨member, isFile⟩)
  · intro clear front path back found isGlobal
    by_contra behind
    obtain ⟨nearer, farther, passes, rfl⟩ := exists_passes found isGlobal behind
    refine clear ⟨⟨nearer, path, farther, passes⟩, (passes.exists_isFile_iff absolute).mp ?_⟩
    rw [Settings.upToLast_eq_nil_iff] at behind
    obtain ⟨outer, member⟩ := List.exists_mem_of_ne_nil _ behind
    exact ⟨outer, List.mem_filter.mp member⟩

/-- Other files that define a setting are found behind the one that it is taken from. -/
theorem Loads.exists_behind {files : List SourceLayer} {settings : Settings} {setting : Setting}
    {source : SourceLayer} (loads : environment.Loads directory files settings)
    (decides : Settings.Decides files setting source) :
    ∃ front back, environment.discover directory = front ++ source.path :: back ∧
      ∀ other ∈ files, (other.value? setting).isSome = true →
        other = source ∨ other.path ∈ back := by
  obtain ⟨front, back, split, behind⟩ := decides.exists_behind
  refine ⟨front.map (·.path), back.map (·.path), ?_, fun other member defined => ?_⟩
  · rw [loads.discover_eq, split, List.map_append, List.map_cons]
  · exact (behind other member defined).imp_right List.mem_map_of_mem

/-- A global file that is the last one decides only what no other file defines. -/
theorem GlobalLast.yields (last : environment.GlobalLast directory) :
    environment.GlobalYields directory := by
  intro files settings loads setting source decides isGlobal other member defined
  obtain ⟨front, back, found, behind⟩ := loads.exists_behind decides
  obtain rfl := last front source.path back found isGlobal
  rcases behind other member defined with rfl | impossible
  · exact isGlobal
  · cases impossible

/-- The files behind the global one mean those in the parents of the home directory. -/
theorem exists_above_of_behind (absolute : environment.home.isAbsolute = true)
    (found : environment.discover directory = front ++ path :: back)
    (isGlobal : environment.isGlobal path = true) {outer : Path} (member : outer ∈ back) :
    ∃ place ∈ environment.home.parents, outer.same (place.child Settings.fileName) = true := by
  obtain ⟨nearer, farther, passes, rfl⟩ :=
    exists_passes found isGlobal (List.ne_nil_of_mem member)
  have listed := (List.mem_filter.mp (Settings.mem_of_mem_upToLast member)).1
  obtain ⟨place, isParent, same, _⟩ := passes.exists_above absolute listed
  exact ⟨place, isParent, same⟩

/-- The global file is in last place unless the walk goes on behind it and there are settings files
above the home directory. Where it is in last place, it yields to all other files. Otherwise it
yields to all but those above the home directory. -/
theorem global_yields_unless_above (environment : Environment) (directory : Path)
    (absolute : environment.home.isAbsolute = true) :
    (environment.GlobalLast directory ↔
      ¬(environment.PassesHome directory ∧ ∃ place ∈ environment.home.parents,
        environment.isFile (place.child Settings.fileName) = true)) ∧
    (environment.GlobalLast directory → environment.GlobalYields directory) ∧
    ∀ settings, environment.load directory = .ok settings →
      ∃ files, environment.Loads directory files settings ∧
        ∀ setting source, Settings.Decides files setting source →
          source.value? setting = some (settings.query.value setting) ∧
          (environment.isGlobal source.path = true →
            ∀ other ∈ files, (other.value? setting).isSome = true →
              environment.isGlobal other.path = true ∨
              ∃ place ∈ environment.home.parents,
                other.path.same (place.child Settings.fileName) = true) := by
  refine ⟨globalLast_iff absolute, GlobalLast.yields, fun settings succeeds => ?_⟩
  obtain ⟨files, loads⟩ := load_eq_ok.mp succeeds
  refine ⟨files, loads, fun setting source decides => ⟨?_, fun isGlobal other member defined => ?_⟩⟩
  · rw [loads.merged]
    exact decides.value?_eq
  · obtain ⟨front, back, found, behind⟩ := loads.exists_behind decides
    rcases behind other member defined with rfl | above
    · exact .inl isGlobal
    · exact .inr (exists_above_of_behind absolute found isGlobal above)

/-- An environment that holds a settings file for German in its home directory and one for French in
the root. -/
def frenchAbove (home : Location) : Environment :=
  holding [([], "[query]\nstemmer = \"french\"".toUTF8),
    (home, "[query]\nstemmer = \"german\"".toUTF8)] home.path

/-- Beside the home directory, the global file yields to a file above it. -/
theorem global_yields_unless_above_of_beside :
    let environment := frenchAbove ["a".toList, "b".toList]
    environment.home.isAbsolute = true ∧
    environment.discover ⟨"/a".toList⟩ = [⟨"/.rpn.toml".toList⟩, environment.globalPath] ∧
    environment.GlobalLast ⟨"/a".toList⟩ ∧ environment.GlobalYields ⟨"/a".toList⟩ := by
  intro environment
  obtain ⟨isLast, yields, _⟩ := global_yields_unless_above environment ⟨"/a".toList⟩ rfl
  have last : environment.GlobalLast ⟨"/a".toList⟩ := by
    refine isLast.mpr ?_
    rintro ⟨⟨front, path, back, passes⟩, _⟩
    have beside : ∀ path ∈ Settings.candidates ⟨"/a".toList⟩,
        environment.isGlobal path = false := by decide
    have notGlobal := beside path (passes.candidates ▸ by simp)
    cases notGlobal.symm.trans passes.isGlobal
  exact ⟨rfl, by decide +kernel, last, yields last⟩

/-- Below the home directory, the global file takes precedence over a file above it. -/
theorem global_precedes_above :
    let environment := frenchAbove ["a".toList]
    let directory : Path := ⟨"/a/b".toList⟩
    environment.home.isAbsolute = true ∧ directory.isAbsolute = true ∧
    environment.discover directory = [environment.globalPath, ⟨"/.rpn.toml".toList⟩] ∧
    (environment.load directory).map (·.query.stemmer) = .ok "german".toList ∧
    ¬environment.GlobalLast directory ∧ ¬environment.GlobalYields directory := by
  intro environment directory
  have found : environment.discover directory =
      [environment.globalPath, ⟨"/.rpn.toml".toList⟩] := by decide +kernel
  refine ⟨rfl, rfl, found, by decide +kernel, fun last => ?_, fun yields => ?_⟩
  · cases last [] _ _ found (Path.same_self _)
  · let german : SourceLayer :=
      ⟨environment.globalPath, none, some ⟨some "german".toList, none, none⟩⟩
    let french : SourceLayer :=
      ⟨⟨"/.rpn.toml".toList⟩, none, some ⟨some "french".toList, none, none⟩⟩
    have loads : environment.Loads directory [german, french] (Settings.merge [german, french]) :=
      ⟨found ▸ .cons (by decide +kernel) (.cons (by decide +kernel) .nil), rfl⟩
    cases yields _ _ loads .stemmer german rfl rfl french (by simp) rfl

end Environment
end BoolQuery
