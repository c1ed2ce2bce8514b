import BoolQuery.Proofs.FileTree
import BoolQuery.Proofs.Settings.Isolation

/-!
# Files that say nothing change no settings

An inert file is read as a layer that leaves everything open. If a tree grows by inert files, the
search finds more files (`filter_discover`), but it finds them among the old ones without ending
earlier, and the settings put together from all of them, or the error, stay the same
(`query_load`). The global file needs care: it is left out of the search if the walk has met it, and
the walk may meet it under another spelling of its path, which leads to the same place
(`content?_child_of_same`).
-/

namespace BoolQuery

/-- The content of a file that is read as a layer without any setting. -/
def Inert (content : ByteArray) : Prop :=
  ∃ text : Text, content = text.utf8Encode ∧ Layer.read? text = some ⟨none, none⟩

namespace Settings

/-- Settings files have a proper name. -/
theorem isName_fileName : Location.IsName fileName :=
  ⟨by decide, by decide, by decide⟩

/-- The search reports candidates. -/
theorem mem_of_mem_upToLast {endsSearch : Path → Bool} {path : Path} {paths : List Path}
    (member : path ∈ upToLast endsSearch paths) : path ∈ paths := by
  induction paths with
  | nil => exact member
  | cons first rest inductionHypothesis =>
      rw [upToLast] at member
      split at member
      · rw [List.mem_singleton.mp member]
        exact List.mem_cons_self
      · rcases List.mem_cons.mp member with rfl | later
        · exact List.mem_cons_self
        · exact List.mem_cons_of_mem first (inductionHypothesis later)

/-- Candidates that do not end the search can be left out before or after it. -/
theorem filter_upToLast {ends endsAmongAll kept : Path → Bool} {paths : List Path}
    (agree : ∀ path, kept path = true → endsAmongAll path = ends path)
    (passed : ∀ path ∈ paths, kept path = false → endsAmongAll path = false) :
    (upToLast endsAmongAll paths).filter kept = upToLast ends (paths.filter kept) := by
  induction paths with
  | nil => rfl
  | cons path rest inductionHypothesis =>
      obtain ⟨first, others⟩ := List.forall_mem_cons.mp passed
      have following := inductionHypothesis others
      cases keep : kept path with
      | true =>
          rw [List.filter_cons_of_pos keep, upToLast, upToLast, agree path keep]
          split
          · simp [keep]
          · rw [List.filter_cons_of_pos keep, following]
      | false => simp [upToLast, keep, first keep, following]

end Settings

/-- Settings with what a file says in place of what it says otherwise. -/
def SourceLayer.overlay (file : SourceLayer) (settings : QuerySettings) : QuerySettings :=
  match file.layer.query with
  | none => settings
  | some layer => settings.override layer

namespace Environment

/-- A path has a content if it is located and the tree has a file there. -/
theorem content?_eq_some_iff {environment : Environment} {path : Path} {content : ByteArray} :
    environment.content? path = some content ↔
      ∃ location, environment.files.locate environment.directory path = .ok location ∧
        environment.files.entry? location = some (.file content) := by
  unfold content? FileTree.find
  cases environment.files.locate environment.directory path with
  | error cause => simp [bind, Except.bind]
  | ok location =>
      cases held : environment.files.entry? location with
      | none => simp [bind, Except.bind, held, throw, throwThe, MonadExceptOf.throw]
      | some entry => cases entry <;> simp [bind, Except.bind, held, pure, Except.pure]

/-- Paths of settings files that mean the same hold the same content. -/
theorem content?_child_of_same {environment : Environment} {left right : Path}
    (absolute : right.isAbsolute = true)
    (same : (left.child Settings.fileName).same (right.child Settings.fileName) = true) :
    environment.content? (left.child Settings.fileName) =
      environment.content? (right.child Settings.fileName) := by
  unfold content? FileTree.find
  rw [FileTree.locate_child_of_same Settings.isName_fileName
    (Path.isAbsolute_child absolute _) same]

/-- Files that are loaded one after another overlay those behind them. -/
theorem query_loadFiles_cons (environment : Environment) (path : Path) (rest : List Path) :
    (environment.loadFiles (path :: rest)).map Settings.query =
      match environment.loadLayer path with
      | .error error => .error error
      | .ok file => ((environment.loadFiles rest).map Settings.query).map file.overlay := by
  simp only [loadFiles, List.mapM_cons]
  cases environment.loadLayer path with
  | error error => rfl
  | ok file =>
      cases rest.mapM environment.loadLayer with
      | error error => rfl
      | ok files => rfl

/-- The second environment has the files of the first, and inert ones where the first has none. -/
structure Supplements (old new : Environment) : Prop where
  home : new.home = old.home
  contents : ∀ path, new.content? path = old.content? path ∨
    old.content? path = none ∧ ∃ content, new.content? path = some content ∧ Inert content

/-- A tree that grows by inert files supplements an environment. -/
theorem supplements_of_grows {environment : Environment} {files : FileTree}
    (grows : environment.files.Grows (fun _ => Inert) files) :
    environment.Supplements { environment with files } where
  home := rfl
  contents := by
    intro path
    cases found : ({ environment with files } : Environment).content? path with
    | none =>
        left
        symm
        rw [Option.eq_none_iff_forall_ne_some] at found ⊢
        intro content held
        obtain ⟨location, located, entry⟩ := content?_eq_some_iff.mp held
        exact found content (content?_eq_some_iff.mpr
          ⟨location, grows.locate_eq_ok_iff.mpr located, grows.entry?_eq_some entry⟩)
    | some content =>
        obtain ⟨location, located, entry⟩ := content?_eq_some_iff.mp found
        have oldLocated := grows.locate_eq_ok_iff.mp located
        rcases grows location with kept | ⟨absent, added, entered, inert⟩
        · exact .inl (content?_eq_some_iff.mpr ⟨location, oldLocated, kept ▸ entry⟩).symm
        · refine .inr ⟨?_, content, rfl, ?_⟩
          · rw [Option.eq_none_iff_forall_ne_some]
            intro other held
            obtain ⟨oldLocation, otherLocated, otherEntry⟩ := content?_eq_some_iff.mp held
            cases oldLocated.symm.trans otherLocated
            rw [absent] at otherEntry
            cases otherEntry
          · cases entry.symm.trans entered
            exact inert

namespace Supplements

variable {old new : Environment} {path : Path}

/-- The home directory, and so the path of the global file, stays the same. -/
theorem globalPath_eq (supplements : old.Supplements new) : new.globalPath = old.globalPath := by
  rw [globalPath, globalPath, supplements.home]

/-- An old file is loaded as before. -/
theorem loadLayer_old (supplements : old.Supplements new) (isFile : old.isFile path = true) :
    new.isFile path = true ∧ new.loadLayer path = old.loadLayer path := by
  rcases supplements.contents path with same | ⟨absent, _⟩
  · exact ⟨by rw [isFile_eq, same, ← isFile_eq, isFile], loadLayer_congr isFile same⟩
  · rw [isFile_eq, absent] at isFile
    cases isFile

/-- A new file is loaded as a layer without any setting. -/
theorem loadLayer_new (supplements : old.Supplements new) (isFile : new.isFile path = true)
    (isNew : old.isFile path = false) : new.loadLayer path = .ok ⟨path, none, none⟩ := by
  rcases supplements.contents path with same | ⟨_, content, found, text, rfl, silent⟩
  · rw [isFile_eq, same, ← isFile_eq, isNew] at isFile
    cases isFile
  · rw [loadLayer_of_text found, Settings.parseLayer, silent]

/-- A file that was there ends the search exactly if it did before. -/
theorem endsSearch_old (supplements : old.Supplements new) (isFile : old.isFile path = true) :
    new.endsSearch path = old.endsSearch path := by
  rw [Environment.endsSearch_eq, Environment.endsSearch_eq, (supplements.loadLayer_old isFile).2]

/-- A file that was added does not end the search, since it says nothing. -/
theorem endsSearch_new (supplements : old.Supplements new) (isFile : new.isFile path = true)
    (isNew : old.isFile path = false) : new.endsSearch path = false := by
  rw [Environment.endsSearch_eq, supplements.loadLayer_new isFile isNew]
  rfl

/-! ### The search -/

/-- What the walk finds are files with the name of settings files. -/
theorem mem_walk {environment : Environment} {directory : Path}
    (member : path ∈ environment.walk directory) :
    environment.isFile path = true ∧ ∃ place : Path, path = place.child Settings.fileName := by
  obtain ⟨listed, isFile⟩ := List.mem_filter.mp (Settings.mem_of_mem_upToLast member)
  obtain ⟨place, _, rfl⟩ := List.mem_map.mp listed
  exact ⟨isFile, place, rfl⟩

/-- What the search finds are files, the global one included. -/
theorem isFile_of_mem_discover {environment : Environment} {directory : Path}
    (member : path ∈ environment.discover directory) : environment.isFile path = true := by
  rcases discover_cases environment directory with found | ⟨found, isFile⟩
  · rw [found] at member
    exact (mem_walk member).1
  · rw [found] at member
    rcases List.mem_append.mp member with walked | last
    · exact (mem_walk walked).1
    · rwa [List.mem_singleton.mp last]

/-- Without the new files the walk meets the same files as before. -/
theorem filter_walk (supplements : old.Supplements new) (directory : Path) :
    (new.walk directory).filter old.isFile = old.walk directory := by
  unfold walk
  rw [Settings.filter_upToLast (fun path => supplements.endsSearch_old) fun path member =>
    supplements.endsSearch_new (List.mem_filter.mp member).2, List.filter_filter]
  congr 1
  apply List.filter_congr
  intro path _
  cases isFile : old.isFile path with
  | true => simp [supplements.loadLayer_old isFile]
  | false => simp

/-- The new files do not end the walk. -/
theorem any_endsSearch (supplements : old.Supplements new) (directory : Path) :
    (new.walk directory).any new.endsSearch = (old.walk directory).any old.endsSearch := by
  rw [← supplements.filter_walk, Bool.eq_iff_iff, List.any_eq_true, List.any_eq_true]
  constructor
  · rintro ⟨path, member, ends⟩
    have isFile : old.isFile path = true := by
      cases isNew : old.isFile path with
      | true => rfl
      | false =>
          rw [supplements.endsSearch_new (mem_walk member).1 isNew] at ends
          cases ends
    exact ⟨path, List.mem_filter.mpr ⟨member, isFile⟩, by rwa [← supplements.endsSearch_old isFile]⟩
  · rintro ⟨path, member, ends⟩
    obtain ⟨walked, isFile⟩ := List.mem_filter.mp member
    exact ⟨path, walked, by rwa [supplements.endsSearch_old isFile]⟩

/-- If the global file is an old one, the walk meets it exactly if it did before. -/
theorem any_same (supplements : old.Supplements new) (absolute : old.home.isAbsolute = true)
    (isFile : old.isFile old.globalPath = true) (directory : Path) :
    (new.walk directory).any (·.same old.globalPath) =
      (old.walk directory).any (·.same old.globalPath) := by
  rw [← supplements.filter_walk, Bool.eq_iff_iff, List.any_eq_true, List.any_eq_true]
  constructor
  · rintro ⟨path, member, same⟩
    obtain ⟨_, place, rfl⟩ := mem_walk member
    refine ⟨_, List.mem_filter.mpr ⟨member, ?_⟩, same⟩
    rwa [isFile_eq, content?_child_of_same absolute same, ← isFile_eq]
  · rintro ⟨path, member, same⟩
    exact ⟨path, (List.mem_filter.mp member).1, same⟩

/-- Without the new files the search finds the same files as before. -/
theorem filter_discover (supplements : old.Supplements new) (absolute : old.home.isAbsolute = true)
    (directory : Path) :
    (new.discover directory).filter old.isFile = old.discover directory := by
  simp only [discover, supplements.globalPath_eq, supplements.any_endsSearch]
  cases isFile : old.isFile old.globalPath with
  | true =>
      rw [supplements.any_same absolute isFile, (supplements.loadLayer_old isFile).1]
      split
      · exact supplements.filter_walk directory
      · rw [List.filter_append, supplements.filter_walk]
        simp [isFile]
  | false =>
      have walked := supplements.filter_walk directory
      split <;> simp [List.filter_append, walked, isFile]

/-! ### Loading -/

/-- New files add nothing to the settings put together from all files. -/
theorem query_loadFiles (supplements : old.Supplements new) {paths : List Path}
    (areFiles : ∀ path ∈ paths, new.isFile path = true) :
    (new.loadFiles paths).map Settings.query =
      (old.loadFiles (paths.filter old.isFile)).map Settings.query := by
  induction paths with
  | nil => rfl
  | cons path rest inductionHypothesis =>
      obtain ⟨first, others⟩ := List.forall_mem_cons.mp areFiles
      have following := inductionHypothesis others
      rw [query_loadFiles_cons]
      cases isFile : old.isFile path with
      | true =>
          rw [List.filter_cons_of_pos isFile, query_loadFiles_cons,
            (supplements.loadLayer_old isFile).2, following]
      | false =>
          rw [List.filter_cons_of_neg (by simp [isFile]), supplements.loadLayer_new first isFile,
            following]
          cases (old.loadFiles (rest.filter old.isFile)).map Settings.query <;> rfl

/-- The same settings are loaded for every directory, or loading fails with the same error. -/
theorem query_load (supplements : old.Supplements new) (absolute : old.home.isAbsolute = true)
    (directory : Path) :
    (new.load directory).map Settings.query = (old.load directory).map Settings.query := by
  rw [load, load, supplements.query_loadFiles fun path => isFile_of_mem_discover,
    supplements.filter_discover absolute]

end Supplements
end Environment
end BoolQuery
