import BoolQuery.Proofs.Parents
import BoolQuery.Proofs.Settings.Additions
import Mathlib.Data.List.Nodup

/-!
# Which settings files are found

`Finds` says what a search has to report for a directory: on the way upward all files up to the
first one that says that it is the last one, and behind them the global file if it is due. Different
candidates on the way have different numbers of components, so none of them is met twice, and
whether one is found depends on the files in front of it only (`mem_walk_iff`). That the global file
is not met twice either is checked where it is added (`discover_eq`). `discover_finds` puts this
together.
-/

namespace BoolQuery

namespace Path

/-- A path means the same as itself. -/
@[simp] theorem same_self (path : Path) : path.same path = true := by
  simp [Path.same]

/-- A path with fewer components does not mean the same. -/
theorem same_eq_false_of_length {left right : Path}
    (fewer : right.components.length < left.components.length) : left.same right = false := by
  refine Bool.eq_false_iff.mpr fun same => ?_
  have equal : left.components = right.components := by simpa [Path.same] using same
  rw [equal] at fewer
  exact Nat.lt_irrefl _ fewer

end Path

namespace Settings

variable {endsSearch : Path → Bool} {paths front back : List Path} {path directory : Path}

/-- A search that ends at some path reports the paths up to there. -/
theorem upToLast_prefix (endsSearch : Path → Bool) (paths : List Path) :
    upToLast endsSearch paths <+: paths := by
  induction paths with
  | nil => exact List.prefix_rfl
  | cons path rest inductionHypothesis =>
      rw [upToLast]
      split
      · exact ⟨rest, rfl⟩
      · exact List.cons_prefix_cons.mpr ⟨rfl, inductionHypothesis⟩

/-- Something is reported if there is anything to search. -/
theorem upToLast_eq_nil_iff : upToLast endsSearch paths = [] ↔ paths = [] := by
  cases paths with
  | nil => exact Iff.rfl
  | cons path rest =>
      obtain ⟨found, searched, _⟩ := upToLast_cons endsSearch path rest
      simp [searched]

/-- A search reports exactly what no file in front ends. -/
theorem mem_upToLast_iff (fresh : path ∉ front) :
    path ∈ upToLast endsSearch (front ++ path :: back) ↔
      ∀ nearer ∈ front, endsSearch nearer = false := by
  induction front with
  | nil =>
      obtain ⟨found, searched, _⟩ := upToLast_cons endsSearch path back
      simp [searched]
  | cons first front inductionHypothesis =>
      have other := List.ne_of_not_mem_cons fresh
      have later := List.not_mem_of_not_mem_cons fresh
      rw [List.cons_append, upToLast]
      cases ends : endsSearch first <;> simp [ends, other, inductionHypothesis later]

/-- A file that ends the search is the last one that it reports. -/
theorem eq_nil_of_upToLast (reported : upToLast endsSearch paths = front ++ path :: back)
    (ends : endsSearch path = true) : back = [] := by
  induction paths generalizing front with
  | nil => simp [upToLast] at reported
  | cons first rest inductionHypothesis =>
      obtain ⟨found, searched, ended⟩ := upToLast_cons endsSearch first rest
      cases front with
      | nil =>
          rw [searched, List.nil_append, List.cons.injEq] at reported
          obtain ⟨rfl, rfl⟩ := reported
          exact ended ends
      | cons second front =>
          rw [upToLast] at reported
          split at reported
          · simp at reported
          · exact inductionHypothesis (List.cons.inj reported).2

/-- Candidates have fewer and fewer components. -/
theorem candidates_pairwise (directory : Path) :
    (candidates directory).Pairwise fun nearer farther =>
      farther.components.length < nearer.components.length := by
  rw [candidates, List.pairwise_map]
  refine directory.selfAndParents_pairwise.imp fun {nearer farther} fewer => ?_
  rw [Path.components_child _ isName_fileName, Path.components_child _ isName_fileName,
    List.length_append, List.length_append]
  exact Nat.add_lt_add_right fewer _

/-- The search looks at no path twice. -/
theorem candidates_nodup (directory : Path) : (candidates directory).Nodup :=
  (candidates_pairwise directory).imp fun {_ _} fewer same =>
    absurd (congrArg (·.components.length) same) (Nat.ne_of_gt fewer)

end Settings

namespace Environment

variable {environment : Environment} {directory path : Path} {front back : List Path}

/-- Only the last one of the files has none behind it. -/
theorem mem_walk_of_append {added : Path}
    (split : environment.walk directory ++ [added] = front ++ path :: back) (behind : back ≠ []) :
    path ∈ environment.walk directory := by
  obtain ⟨others, final, rfl⟩ := (List.eq_nil_or_concat back).resolve_left behind
  rw [List.concat_eq_append, ← List.cons_append, ← List.append_assoc] at split
  rw [(List.append_inj' split rfl).1]
  exact List.mem_append_right front List.mem_cons_self

/-- The walk finds candidates in their order. -/
theorem walk_sublist (environment : Environment) (directory : Path) :
    (environment.walk directory).Sublist (Settings.candidates directory) :=
  (Settings.upToLast_prefix _ _).sublist.trans List.filter_sublist

/-- A candidate is found exactly if it is a file and no file in front of it is the last one. -/
theorem mem_walk_iff (split : Settings.candidates directory = front ++ path :: back) :
    path ∈ environment.walk directory ↔
      environment.isFile path = true ∧ ∀ nearer ∈ front, ¬environment.IsLast nearer := by
  have fresh : path ∉ front := fun member => by
    have distinct := Settings.candidates_nodup directory
    rw [split, List.nodup_middle, List.nodup_cons] at distinct
    exact distinct.1 (List.mem_append_left back member)
  have walked : environment.walk directory = Settings.upToLast environment.endsSearch
      ((front ++ path :: back).filter environment.isFile) := by
    rw [← split]
    rfl
  cases isFile : environment.isFile path with
  | false =>
      refine iff_of_false (fun member => ?_) (by simp)
      rw [(Supplements.mem_walk member).1] at isFile
      cases isFile
  | true =>
      rw [walked, List.filter_append, List.filter_cons_of_pos isFile,
        Settings.mem_upToLast_iff fun member => fresh (List.mem_filter.mp member).1]
      simp [isLast_iff]

/-- The global file is added to the walk unless the walk has met a last file or the global file, or
there is no global file. -/
theorem discover_eq (environment : Environment) (directory : Path) :
    environment.discover directory = environment.walk directory ∧
        ((∃ path ∈ environment.walk directory, environment.IsLast path) ∨
          environment.isFile environment.globalPath = false ∨
          ∃ path ∈ environment.walk directory, path.same environment.globalPath = true) ∨
      environment.discover directory =
          environment.walk directory ++ [environment.globalPath] ∧
        (∀ path ∈ environment.walk directory, ¬environment.IsLast path) ∧
        environment.isFile environment.globalPath = true ∧
        ∀ path ∈ environment.walk directory, path.same environment.globalPath = false := by
  have last_iff : (environment.walk directory).any environment.endsSearch = true ↔
      ∃ path ∈ environment.walk directory, environment.IsLast path := by
    rw [List.any_eq_true]
    refine exists_congr fun path => and_congr_right fun member => ?_
    rw [isLast_iff, (Supplements.mem_walk member).1]
    simp
  have met_iff : (environment.walk directory).any (·.same environment.globalPath) = true ↔
      ∃ path ∈ environment.walk directory, path.same environment.globalPath = true :=
    List.any_eq_true
  simp only [discover]
  split
  case isTrue known =>
      rw [Bool.or_eq_true, Bool.or_eq_true, Bool.not_eq_true', last_iff, met_iff, or_assoc] at known
      exact .inl ⟨rfl, known⟩
  case isFalse due =>
      rw [Bool.or_eq_true, Bool.or_eq_true, Bool.not_eq_true', last_iff, met_iff, or_assoc] at due
      simp only [not_or, not_exists, not_and, Bool.not_eq_false, Bool.not_eq_true] at due
      exact .inr ⟨rfl, due⟩

/-- What the way upward from a directory is searched for. -/
structure Walks (environment : Environment) (directory : Path) (walked : List Path) : Prop where
  /-- The candidates are met in their order. -/
  inOrder : walked.Sublist (Settings.candidates directory)
  shrinking : walked.Pairwise fun nearer farther =>
    farther.components.length < nearer.components.length
  /-- Every file is found up to the first one that says that it is the last one, and none behind
  it. -/
  complete : ∀ front path back, Settings.candidates directory = front ++ path :: back →
    (path ∈ walked ↔
      environment.isFile path = true ∧ ∀ nearer ∈ front, ¬environment.IsLast nearer)

/-- The walk is in order, finds all files up to the first one that ends it, and nothing else. -/
theorem walks (environment : Environment) (directory : Path) :
    environment.Walks directory (environment.walk directory) where
  inOrder := walk_sublist environment directory
  shrinking := (Settings.candidates_pairwise directory).sublist (walk_sublist environment directory)
  complete := fun _ _ _ split => mem_walk_iff split

/-- What a search reports for a directory: the files found on the way upward, and behind them the
global file if it is due. -/
structure Finds (environment : Environment) (directory : Path) (walked found : List Path) : Prop
    extends Walks environment directory walked where
  /-- Nothing but the global file is added. -/
  added : found = walked ∨ found = walked ++ [environment.globalPath]
  /-- The global file is there if the walk has met it, or if it exists and nothing has ended the
  walk. -/
  global : (∃ path ∈ found, path.same environment.globalPath = true) ↔
    (∃ path ∈ walked, path.same environment.globalPath = true) ∨
      (∀ path ∈ walked, ¬environment.IsLast path) ∧
        environment.isFile environment.globalPath = true
  areFiles : ∀ path ∈ found, environment.isFile path = true
  distinct : found.Pairwise fun left right => left.same right = false
  /-- A file that says that it is the last one is the last one of all. -/
  closed : ∀ front path back, found = front ++ path :: back → environment.IsLast path → back = []

/-- The way upward leads from a directory to its parent and on from parent to parent, until there is
none. The search reports what is to be found on this way and in the home directory. -/
theorem discover_finds (environment : Environment) (directory : Path) :
    directory.selfAndParents.IsChain (fun inner outer => inner.parent? = some outer) ∧
    (∃ top, directory.selfAndParents.getLast? = some top ∧ top.parent? = none) ∧
    environment.Finds directory (environment.walk directory) (environment.discover directory) := by
  obtain ⟨chain, top⟩ := directory.selfAndParents_isChain
  refine ⟨chain, top, ?_⟩
  have walks := environment.walks directory
  have apart := walks.shrinking.imp fun fewer => Path.same_eq_false_of_length fewer
  have areFiles : ∀ path ∈ environment.discover directory, environment.isFile path = true :=
    fun path => Supplements.isFile_of_mem_discover
  rcases discover_eq environment directory with ⟨found, known⟩ | ⟨found, open_, isFile, unmet⟩
  · -- Nothing is added.
    rw [found] at areFiles ⊢
    refine ⟨walks, .inl rfl, ⟨.inl, fun due => ?_⟩, areFiles, apart, fun _ _ _ split last =>
      Settings.eq_nil_of_upToLast split (isLast_iff.mp last).2⟩
    rcases due with met | ⟨open_, isFile⟩
    · exact met
    · rcases known with ⟨path, member, last⟩ | missing | met
      · exact absurd last (open_ path member)
      · exact absurd isFile (by simp [missing])
      · exact met
  · -- The global file is added, and no file in front of it is the last one.
    rw [found] at areFiles ⊢
    refine ⟨walks, .inr rfl, ⟨fun _ => .inr ⟨open_, isFile⟩, fun _ => ?_⟩, areFiles, ?_, ?_⟩
    · exact ⟨_, List.mem_append_right _ (List.mem_singleton.mpr rfl), Path.same_self _⟩
    · exact List.pairwise_append.mpr ⟨apart, List.pairwise_singleton _ _, by simpa using unmet⟩
    · intro front path back split last
      by_contra behind
      exact open_ path (mem_walk_of_append split behind) last

end Environment
end BoolQuery
