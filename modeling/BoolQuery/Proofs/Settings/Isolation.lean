import BoolQuery.Settings.Discovery

/-!
# What settings depend on

The search for settings files reads every file it meets and goes on behind one that it cannot read
or understand, while loading reads all files again and gives up at the first such file. Both passes
read a file the same way (`endsSearch_eq`). So the nearest file that is faulty or says that it is
the last one decides: what lies behind it, in parent directories or in the home directory, never
shows in the outcome, and a faulty file is never passed over (`load_isolated`).
-/

namespace BoolQuery

namespace Settings

/-- The paths at which the search looks for settings files, nearest first. -/
def candidates (directory : Path) : List Path :=
  directory.selfAndParents.map (·.child fileName)

/-- The search goes on behind files that do not end it. -/
theorem upToLast_append {endsSearch : Path → Bool} {front : List Path} (back : List Path)
    (passed : ∀ path ∈ front, endsSearch path = false) :
    upToLast endsSearch (front ++ back) = front ++ upToLast endsSearch back := by
  induction front with
  | nil => rfl
  | cons path rest inductionHypothesis =>
      obtain ⟨first, others⟩ := List.forall_mem_cons.mp passed
      simp [upToLast, first, inductionHypothesis others]

/-- A search that no file ends finds all of them. -/
theorem upToLast_eq_self {endsSearch : Path → Bool} {paths : List Path}
    (passed : ∀ path ∈ paths, endsSearch path = false) : upToLast endsSearch paths = paths := by
  simpa [upToLast] using upToLast_append [] passed

/-- The search reports the file at which it ends, and may go on behind a file that does not end
it. -/
theorem upToLast_cons (endsSearch : Path → Bool) (path : Path) (rest : List Path) :
    ∃ found, upToLast endsSearch (path :: rest) = path :: found ∧
      (endsSearch path = true → found = []) := by
  cases ends : endsSearch path with
  | true => exact ⟨[], by simp [upToLast, ends], fun _ => rfl⟩
  | false => exact ⟨_, by simp [upToLast, ends]; rfl, by simp⟩

end Settings

namespace Environment

variable (environment : Environment)

/-- The content of the file that a path leads to, if it leads to one. -/
def content? (path : Path) : Option ByteArray :=
  match environment.files.find environment.directory path with
  | .ok (.file content) => some content
  | _ => none

/-- A path leads to a file that cannot be loaded, for the reason that an error gives. -/
inductive Faulty (environment : Environment) (path : Path) : LoadError → Prop where
  /-- The file does not hold the UTF-8 form of a text. -/
  | unreadable {content : ByteArray} (found : environment.content? path = some content)
      (invalid : ¬content.IsValidUTF8) : Faulty environment path (.unreadable path .invalidText)
  /-- The file holds a text that is not a layer of settings. -/
  | malformed {text : Text} (found : environment.content? path = some text.utf8Encode)
      (refused : Layer.read? text = none) : Faulty environment path (.malformed path)

/-- A path leads to a file that says that it is the last one. -/
def IsLast (path : Path) : Prop :=
  ∃ (text : Text) (layer : Layer), environment.content? path = some text.utf8Encode ∧
    Layer.read? text = some layer ∧ layer.isRoot = some true

/-- A path leads to a file behind which nothing counts: a faulty one, or one that says that it is
the last one. -/
def Stops (path : Path) : Prop :=
  (∃ error, environment.Faulty path error) ∨ environment.IsLast path

/-- The nearest candidate that stops the search or the loading, and the candidates in front of
it. -/
structure Nearest (directory : Path) (front : List Path) (stopper : Path) : Prop where
  reached : front ++ [stopper] <+: Settings.candidates directory
  passed : ∀ path ∈ front, ¬environment.Stops path
  stops : environment.Stops stopper

variable {environment} {path : Path}

/-! ### Reading one file -/

/-- A path leads to a file if it has a content. -/
theorem isFile_eq (environment : Environment) (path : Path) :
    environment.isFile path = (environment.content? path).isSome := by
  unfold isFile FileTree.isFile content?
  split <;> simp_all

/-- Reading the text of a file depends on its content alone. -/
theorem readText_eq {content : ByteArray} (found : environment.content? path = some content) :
    environment.readText path = match String.fromUTF8? content with
      | none => .error .invalidText
      | some text => .ok text.toList := by
  unfold content? at found
  split at found
  case h_1 held lookup =>
    cases found
    rw [readText, FileTree.readText, lookup]
    simp only [bind, Except.bind]
    cases String.fromUTF8? content <;> rfl
  case h_2 => cases found

/-- The encoded form of a text is read as this text. -/
theorem fromUTF8?_utf8Encode (text : Text) :
    String.fromUTF8? text.utf8Encode = some (String.ofList text) :=
  dif_pos (.intro text rfl)

/-- A file that holds a text is loaded as the layer that the text is read as. -/
theorem loadLayer_of_text {text : Text}
    (found : environment.content? path = some text.utf8Encode) :
    environment.loadLayer path = Settings.parseLayer path text := by
  rw [loadLayer, readText_eq found, fromUTF8?_utf8Encode]
  simp

/-- A file that does not hold a text cannot be loaded. -/
theorem loadLayer_of_invalid {content : ByteArray}
    (found : environment.content? path = some content) (invalid : ¬content.IsValidUTF8) :
    environment.loadLayer path = .error (.unreadable path .invalidText) := by
  rw [loadLayer, readText_eq found, String.fromUTF8?, dif_neg invalid]

/-- The search reads a file as loading does. -/
theorem endsSearch_eq (environment : Environment) (path : Path) :
    environment.endsSearch path = match environment.loadLayer path with
      | .error _ => false
      | .ok file => file.layer.endsSearch := by
  unfold endsSearch loadLayer
  cases environment.readText path with
  | error cause => rfl
  | ok text =>
      simp only [Settings.parseLayer]
      cases Layer.read? text <;> rfl

/-- Loading a file depends on its content only. -/
theorem loadLayer_congr {other : Environment} (isFile : environment.isFile path = true)
    (agree : other.content? path = environment.content? path) :
    other.loadLayer path = environment.loadLayer path := by
  rw [isFile_eq, Option.isSome_iff_exists] at isFile
  obtain ⟨content, found⟩ := isFile
  rw [loadLayer, loadLayer, readText_eq found, readText_eq (agree.trans found)]

/-- A file holds the UTF-8 form of a text or of none. -/
theorem content_cases (isFile : environment.isFile path = true) :
    (∃ content, environment.content? path = some content ∧ ¬content.IsValidUTF8) ∨
      ∃ text : Text, environment.content? path = some text.utf8Encode := by
  rw [isFile_eq, Option.isSome_iff_exists] at isFile
  obtain ⟨content, found⟩ := isFile
  by_cases valid : content.IsValidUTF8
  case neg => exact .inl ⟨content, found, valid⟩
  case pos =>
    obtain ⟨text, rfl⟩ := valid
    exact .inr ⟨text, found⟩

/-- A file is faulty exactly if loading it fails. -/
theorem faulty_iff {error : LoadError} :
    environment.Faulty path error ↔
      environment.isFile path = true ∧ environment.loadLayer path = .error error := by
  constructor
  · intro faulty
    cases faulty with
    | unreadable found invalid =>
        exact ⟨by simp [isFile_eq, found], loadLayer_of_invalid found invalid⟩
    | malformed found refused =>
        refine ⟨by simp [isFile_eq, found], ?_⟩
        rw [loadLayer_of_text found, Settings.parseLayer, refused]
  · rintro ⟨isFile, fails⟩
    rcases content_cases isFile with ⟨content, found, invalid⟩ | ⟨text, found⟩
    · rw [loadLayer_of_invalid found invalid] at fails
      cases fails
      exact .unreadable found invalid
    · rw [loadLayer_of_text found, Settings.parseLayer] at fails
      cases refused : Layer.read? text with
      | none =>
          rw [refused] at fails
          cases fails
          exact .malformed found refused
      | some layer => simp [refused] at fails

/-- A file says that it is the last one exactly if it ends the search. -/
theorem isLast_iff :
    environment.IsLast path ↔
      environment.isFile path = true ∧ environment.endsSearch path = true := by
  constructor
  · rintro ⟨text, layer, found, read, isRoot⟩
    refine ⟨by simp [isFile_eq, found], ?_⟩
    simp [endsSearch_eq, loadLayer_of_text found, Settings.parseLayer, read, Layer.endsSearch,
      isRoot]
  · rintro ⟨isFile, ends⟩
    rcases content_cases isFile with ⟨content, found, invalid⟩ | ⟨text, found⟩
    · simp [endsSearch_eq, loadLayer_of_invalid found invalid] at ends
    · rw [endsSearch_eq, loadLayer_of_text found, Settings.parseLayer] at ends
      cases read : Layer.read? text with
      | none => simp [read] at ends
      | some layer => exact ⟨text, layer, found, read, by simpa [read, Layer.endsSearch] using ends⟩

/-- A file that does not stop anything is loaded, and the search goes on behind it. -/
theorem loadLayer_of_not_stops (passed : ¬environment.Stops path)
    (isFile : environment.isFile path = true) :
    ∃ file, environment.loadLayer path = .ok file := by
  cases loaded : environment.loadLayer path with
  | ok file => exact ⟨file, rfl⟩
  | error error => exact absurd (.inl ⟨error, faulty_iff.mpr ⟨isFile, loaded⟩⟩) passed

/-- A file that stops nothing does not end the search. -/
theorem endsSearch_of_not_stops (passed : ¬environment.Stops path)
    (isFile : environment.isFile path = true) : environment.endsSearch path = false :=
  Bool.eq_false_iff.mpr fun ends => passed (.inr (isLast_iff.mpr ⟨isFile, ends⟩))

/-- Whether a path stops anything depends on the content of its file alone. -/
theorem faulty_congr {other : Environment} {error : LoadError}
    (agree : other.content? path = environment.content? path)
    (faulty : environment.Faulty path error) : other.Faulty path error := by
  cases faulty with
  | unreadable found invalid => exact .unreadable (agree.trans found) invalid
  | malformed found refused => exact .malformed (agree.trans found) refused

/-- Whether a file says that it is the last one depends on its content only. -/
theorem isLast_congr {other : Environment}
    (agree : other.content? path = environment.content? path)
    (last : environment.IsLast path) : other.IsLast path := by
  obtain ⟨text, layer, found, read⟩ := last
  exact ⟨text, layer, agree.trans found, read⟩

/-- Whether a file stops the search or the loading depends on its content only. -/
theorem stops_congr {other : Environment}
    (agree : other.content? path = environment.content? path)
    (stops : environment.Stops path) : other.Stops path :=
  stops.imp (fun ⟨error, faulty⟩ => ⟨error, faulty_congr agree faulty⟩) (isLast_congr agree)

/-! ### Loading several files -/

/-- A loaded file is labelled with its path. -/
theorem path_of_loadLayer {file : SourceLayer} (loaded : environment.loadLayer path = .ok file) :
    file.path = path := by
  unfold loadLayer Settings.parseLayer at loaded
  split at loaded
  · cases loaded
  · split at loaded <;> cases loaded
    rfl

/-- Files that can be loaded one by one can be loaded together, in order. -/
theorem mapM_loadLayer {paths : List Path}
    (loaded : ∀ path ∈ paths, ∃ file, environment.loadLayer path = .ok file) :
    ∃ files, paths.mapM environment.loadLayer = .ok files ∧ files.map SourceLayer.path = paths := by
  induction paths with
  | nil => exact ⟨[], rfl, rfl⟩
  | cons path rest inductionHypothesis =>
      obtain ⟨⟨file, first⟩, others⟩ := List.forall_mem_cons.mp loaded
      obtain ⟨files, read, labels⟩ := inductionHypothesis others
      refine ⟨file :: files, ?_, by rw [List.map_cons, labels, path_of_loadLayer first]⟩
      rw [List.mapM_cons, first, read]
      rfl

/-- Files that can be loaded one by one are the sources of the settings put together from them. -/
theorem loadFiles_of_loaded {paths : List Path}
    (loaded : ∀ path ∈ paths, ∃ file, environment.loadLayer path = .ok file) :
    ∃ settings, environment.loadFiles paths = .ok settings ∧ settings.sources = paths := by
  obtain ⟨files, read, labels⟩ := mapM_loadLayer loaded
  exact ⟨Settings.merge files, by rw [loadFiles, read]; rfl, labels⟩

/-- The first file that cannot be loaded is the one that is reported. -/
theorem loadFiles_of_fault {front : List Path} {stopper : Path} (back : List Path)
    {error : LoadError} (loaded : ∀ path ∈ front, ∃ file, environment.loadLayer path = .ok file)
    (fails : environment.loadLayer stopper = .error error) :
    environment.loadFiles (front ++ stopper :: back) = .error error := by
  obtain ⟨files, read, _⟩ := mapM_loadLayer loaded
  rw [loadFiles, List.mapM_append, read, List.mapM_cons, fails]
  rfl

/-- Loading several files depends on what each of them is loaded as. -/
theorem loadFiles_congr {other : Environment} {paths : List Path}
    (agree : ∀ path ∈ paths, other.loadLayer path = environment.loadLayer path) :
    other.loadFiles paths = environment.loadFiles paths := by
  have same : paths.mapM other.loadLayer = paths.mapM environment.loadLayer := by
    induction paths with
    | nil => rfl
    | cons path rest inductionHypothesis =>
        obtain ⟨first, others⟩ := List.forall_mem_cons.mp agree
        rw [List.mapM_cons, List.mapM_cons, first, inductionHypothesis others]
  rw [loadFiles, loadFiles, same]

/-! ### The search -/

variable {directory : Path} {front : List Path} {stopper : Path}

/-- A file among paths that stop nothing can be loaded and does not end the search. -/
theorem mem_filter_isFile {paths : List Path} {path : Path}
    (passed : ∀ path ∈ paths, ¬environment.Stops path)
    (member : path ∈ paths.filter environment.isFile) :
    (∃ file, environment.loadLayer path = .ok file) ∧ environment.endsSearch path = false := by
  obtain ⟨listed, isFile⟩ := List.mem_filter.mp member
  exact ⟨loadLayer_of_not_stops (passed path listed) isFile,
    endsSearch_of_not_stops (passed path listed) isFile⟩

/-- Only a file can stop the search or the loading. -/
theorem Stops.isFile (stops : environment.Stops path) : environment.isFile path = true := by
  rcases stops with ⟨error, faulty⟩ | last
  · exact (faulty_iff.mp faulty).1
  · exact (isLast_iff.mp last).1

/-- The global file is added only if it is a file. -/
theorem discover_cases (environment : Environment) (directory : Path) :
    environment.discover directory = environment.walk directory ∨
      environment.discover directory =
        environment.walk directory ++ [environment.globalPath] ∧
      environment.isFile environment.globalPath = true := by
  simp only [discover]
  split
  case isTrue => exact .inl rfl
  case isFalse added =>
    simp only [Bool.or_eq_true, Bool.not_eq_true', not_or, Bool.not_eq_false] at added
    exact .inr ⟨rfl, added.1.2⟩

/-- The search always finds the nearest file that stops anything, behind the files in front of
it. -/
theorem Nearest.discover_eq (nearest : environment.Nearest directory front stopper) :
    ∃ back, environment.discover directory =
        front.filter environment.isFile ++ stopper :: back ∧
      (environment.IsLast stopper → back = []) := by
  obtain ⟨behind, split⟩ := nearest.reached
  obtain ⟨found, searched, ended⟩ := Settings.upToLast_cons environment.endsSearch stopper
    (behind.filter environment.isFile)
  have walked : environment.walk directory =
      front.filter environment.isFile ++ stopper :: found := by
    change Settings.upToLast _ ((Settings.candidates directory).filter _) = _
    rw [← split, List.append_assoc, List.filter_append, List.singleton_append,
      List.filter_cons_of_pos nearest.stops.isFile,
      Settings.upToLast_append _ fun path member => (mem_filter_isFile nearest.passed member).2,
      searched]
  by_cases last : environment.IsLast stopper
  case pos =>
    have ends := (isLast_iff.mp last).2
    refine ⟨[], ?_, fun _ => rfl⟩
    simp [discover, walked, ended ends, ends]
  case neg =>
    rcases discover_cases environment directory with discovered | ⟨discovered, _⟩
    · exact ⟨found, discovered.trans walked, fun isLast => absurd isLast last⟩
    · refine ⟨found ++ [environment.globalPath], ?_, fun isLast => absurd isLast last⟩
      rw [discovered, walked, List.append_assoc, List.cons_append]

/-- A search that nothing stops finds every candidate that is a file. -/
theorem walk_of_not_stops
    (passed : ∀ path ∈ Settings.candidates directory, ¬environment.Stops path) :
    environment.walk directory = (Settings.candidates directory).filter environment.isFile :=
  Settings.upToLast_eq_self fun _ member => (mem_filter_isFile passed member).2

/-! ### The outcome -/

/-- Loading fails with the error of the nearest stopper, if that is faulty. -/
theorem Nearest.load_of_faulty {error : LoadError}
    (nearest : environment.Nearest directory front stopper)
    (faulty : environment.Faulty stopper error) :
    environment.load directory = .error error := by
  obtain ⟨back, found, _⟩ := nearest.discover_eq
  rw [load, found]
  exact loadFiles_of_fault back (fun path member => (mem_filter_isFile nearest.passed member).1)
    (faulty_iff.mp faulty).2

/-- Loading succeeds with the files up to the nearest stopper, if that is the last one. -/
theorem Nearest.load_of_isLast (nearest : environment.Nearest directory front stopper)
    (last : environment.IsLast stopper) :
    ∃ settings, environment.load directory = .ok settings ∧
      settings.sources = front.filter environment.isFile ++ [stopper] := by
  obtain ⟨back, found, ended⟩ := nearest.discover_eq
  rw [load, found, ended last]
  refine loadFiles_of_loaded fun path member => ?_
  rcases List.mem_append.mp member with passed | stopping
  · exact (mem_filter_isFile nearest.passed passed).1
  · cases List.mem_singleton.mp stopping
    have ends := (isLast_iff.mp last).2
    rw [endsSearch_eq] at ends
    split at ends
    case h_1 => cases ends
    case h_2 file loaded => exact ⟨file, loaded⟩

/-- An environment with the same contents up to the nearest stopper has the same one. -/
theorem Nearest.congr {other : Environment}
    (nearest : environment.Nearest directory front stopper)
    (agree : ∀ path ∈ front ++ [stopper], other.content? path = environment.content? path) :
    other.Nearest directory front stopper where
  reached := nearest.reached
  passed path member stops :=
    nearest.passed path member
      (stops_congr (agree path (List.mem_append_left _ member)).symm stops)
  stops := stops_congr (agree stopper (by simp)) nearest.stops

/-- Two environments that agree on the nearest file that stops anything and on what is in front of
it load the same. -/
theorem Nearest.load_eq {other : Environment}
    (nearest : environment.Nearest directory front stopper)
    (agree : ∀ path ∈ front ++ [stopper], other.content? path = environment.content? path) :
    other.load directory = environment.load directory := by
  have mirrored := nearest.congr agree
  rcases nearest.stops with ⟨error, faulty⟩ | last
  · rw [nearest.load_of_faulty faulty,
      mirrored.load_of_faulty (faulty_congr (agree stopper (by simp)) faulty)]
  · obtain ⟨back, found, ended⟩ := nearest.discover_eq
    obtain ⟨otherBack, otherFound, otherEnded⟩ := mirrored.discover_eq
    have sameFiles : front.filter other.isFile = front.filter environment.isFile :=
      List.filter_congr fun path member => by
        rw [isFile_eq, isFile_eq, agree path (List.mem_append_left _ member)]
    rw [load, load, found, otherFound, ended last,
      otherEnded (isLast_congr (agree stopper (by simp)) last), sameFiles]
    refine loadFiles_congr fun path member => ?_
    rcases List.mem_append.mp member with passed | stopping
    · obtain ⟨listed, isFile⟩ := List.mem_filter.mp passed
      exact loadLayer_congr isFile (agree path (List.mem_append_left _ listed))
    · cases List.mem_singleton.mp stopping
      exact loadLayer_congr nearest.stops.isFile (agree stopper (by simp))

/-- If nothing stops the search, only the global file can be at fault. -/
theorem load_error_iff (passed : ∀ path ∈ Settings.candidates directory, ¬environment.Stops path)
    (error : LoadError) :
    environment.load directory = .error error ↔
      environment.discover directory =
        environment.walk directory ++ [environment.globalPath] ∧
      environment.Faulty environment.globalPath error := by
  have loaded : ∀ path ∈ environment.walk directory,
      ∃ file, environment.loadLayer path = .ok file := by
    rw [walk_of_not_stops passed]
    exact fun path member => (mem_filter_isFile passed member).1
  constructor
  · intro fails
    rcases discover_cases environment directory with found | ⟨found, isFile⟩
    · obtain ⟨settings, succeeds, _⟩ := loadFiles_of_loaded loaded
      rw [load, found, succeeds] at fails
      cases fails
    · refine ⟨found, faulty_iff.mpr ⟨isFile, ?_⟩⟩
      cases read : environment.loadLayer environment.globalPath with
      | error cause =>
          rw [load, found, loadFiles_of_fault [] loaded read] at fails
          rw [Except.error.inj fails]
      | ok file =>
          -- With the global file loaded nothing is left that could have failed.
          have all : ∀ path ∈ environment.walk directory ++ [environment.globalPath],
              ∃ file, environment.loadLayer path = .ok file := by
            simp only [List.forall_mem_append, List.forall_mem_singleton]
            exact ⟨loaded, file, read⟩
          obtain ⟨settings, succeeds, _⟩ := loadFiles_of_loaded all
          rw [load, found, succeeds] at fails
          cases fails
  · rintro ⟨found, faulty⟩
    rw [load, found]
    exact loadFiles_of_fault [] loaded (faulty_iff.mp faulty).2

/-- Let a candidate be the nearest one that is a faulty file or says that it is the last one. Then
the outcome depends on nothing but the contents of this candidate and of those in front of it: not
on other files, the home directory or the working directory. If the candidate is faulty, loading
fails with an error that names it; if it says that it is the last one, loading succeeds, and it is
the last source of the settings. If there is no such candidate, loading fails exactly if the global
file is found behind the others and is faulty, with an error that names the global file. -/
theorem load_isolated (environment : Environment) (directory : Path) :
    (∀ front stopper, environment.Nearest directory front stopper →
      (∀ other : Environment,
        (∀ path ∈ front ++ [stopper], other.content? path = environment.content? path) →
          other.load directory = environment.load directory) ∧
      (∀ error, environment.Faulty stopper error →
        environment.load directory = .error error) ∧
      (environment.IsLast stopper → ∃ settings, environment.load directory = .ok settings ∧
        settings.sources.getLast? = some stopper)) ∧
    ((∀ path ∈ Settings.candidates directory, ¬environment.Stops path) →
      ∀ error, environment.load directory = .error error ↔
        environment.discover directory =
          environment.walk directory ++ [environment.globalPath] ∧
        environment.Faulty environment.globalPath error) := by
  refine ⟨fun front stopper nearest => ⟨fun other agree => nearest.load_eq agree,
    fun error faulty => nearest.load_of_faulty faulty, fun last => ?_⟩, load_error_iff⟩
  obtain ⟨settings, loaded, sources⟩ := nearest.load_of_isLast last
  exact ⟨settings, loaded, by simp [sources]⟩

/-- An environment in which the directories `/`, `/a` and `/a/b` hold settings files with given
contents. -/
def holding (contents : List (Location × ByteArray)) (home : Path) : Environment where
  files := contents.foldl
    (fun tree (location, content) => tree.put (location ++ [Settings.fileName]) (.file content))
    (FileTree.empty.makeDirectories ["a".toList, "b".toList])
  directory := []
  home := home

/-- A last file hides a malformed one farther up and is the last source. A file that holds no text
is reported, although a last one is found behind it. So is a malformed global file that no other
file hides. -/
theorem load_isolated_of_last_and_faulty :
    let last := "root = true".toList.utf8Encode
    let malformed := "[".toList.utf8Encode
    let noText : ByteArray := ⟨#[255]⟩
    ((holding [(["a".toList], last), ([], malformed)] ⟨"/".toList⟩).load ⟨"/a/b".toList⟩ =
      (holding [(["a".toList], last)] ⟨"/b".toList⟩).load ⟨"/a/b".toList⟩) ∧
    (∃ settings, (holding [(["a".toList], last)] ⟨"/b".toList⟩).load ⟨"/a/b".toList⟩ =
      .ok settings ∧ settings.sources.getLast? = some ⟨"/a/.rpn.toml".toList⟩) ∧
    ((holding [(["a".toList], noText), ([], last)] ⟨"/".toList⟩).load ⟨"/a/b".toList⟩ =
      .error (.unreadable ⟨"/a/.rpn.toml".toList⟩ .invalidText)) ∧
    ((holding [(["a".toList, "b".toList], malformed)] ⟨"/a/b".toList⟩).load ⟨"/a".toList⟩ =
      .error (.malformed ⟨"/a/b/.rpn.toml".toList⟩)) := by
  intro last malformed noText
  have absent {environment : Environment} {path : Path}
      (missing : environment.content? path = none) : ¬environment.Stops path :=
    fun stops => by simpa [isFile_eq, missing] using stops.isFile
  have reached : [⟨"/a/b/.rpn.toml".toList⟩, ⟨"/a/.rpn.toml".toList⟩] <+:
      Settings.candidates ⟨"/a/b".toList⟩ := ⟨[⟨"/.rpn.toml".toList⟩], rfl⟩
  have isLast : (holding [(["a".toList], last)] ⟨"/b".toList⟩).IsLast ⟨"/a/.rpn.toml".toList⟩ :=
    ⟨"root = true".toList, ⟨some true, none⟩, rfl, rfl, rfl⟩
  have nearest : (holding [(["a".toList], last)] ⟨"/b".toList⟩).Nearest ⟨"/a/b".toList⟩
      [⟨"/a/b/.rpn.toml".toList⟩] ⟨"/a/.rpn.toml".toList⟩ :=
    ⟨reached, List.forall_mem_singleton.mpr (absent rfl), .inr isLast⟩
  refine ⟨?_, ((load_isolated _ _).1 _ _ nearest).2.2 isLast, ?_, ?_⟩
  · refine ((load_isolated _ _).1 _ _ nearest).1 _ ?_
    exact List.forall_mem_cons.mpr ⟨rfl, List.forall_mem_singleton.mpr rfl⟩
  · have faulty : (holding [(["a".toList], noText), ([], last)] ⟨"/".toList⟩).Faulty
        ⟨"/a/.rpn.toml".toList⟩ (.unreadable ⟨"/a/.rpn.toml".toList⟩ .invalidText) :=
      .unreadable rfl (by decide)
    have nearest : (holding [(["a".toList], noText), ([], last)] ⟨"/".toList⟩).Nearest
        ⟨"/a/b".toList⟩ [⟨"/a/b/.rpn.toml".toList⟩] ⟨"/a/.rpn.toml".toList⟩ :=
      ⟨reached, List.forall_mem_singleton.mpr (absent rfl), .inl ⟨_, faulty⟩⟩
    exact ((load_isolated _ _).1 _ _ nearest).2.1 _ faulty
  · have refused : Layer.read? "[".toList = none := rfl
    have faulty : (holding [(["a".toList, "b".toList], malformed)] ⟨"/a/b".toList⟩).Faulty
        ⟨"/a/b/.rpn.toml".toList⟩ (.malformed ⟨"/a/b/.rpn.toml".toList⟩) :=
      .malformed rfl refused
    have passed : ∀ path ∈ Settings.candidates ⟨"/a".toList⟩,
        ¬(holding [(["a".toList, "b".toList], malformed)] ⟨"/a/b".toList⟩).Stops path := by
      have listed : Settings.candidates ⟨"/a".toList⟩ =
          [⟨"/a/.rpn.toml".toList⟩, ⟨"/.rpn.toml".toList⟩] := rfl
      rw [listed, List.forall_mem_cons, List.forall_mem_singleton]
      exact ⟨absent rfl, absent rfl⟩
    exact ((load_isolated _ _).2 passed _).mpr ⟨rfl, faulty⟩

end Environment
end BoolQuery
