import BoolQuery.FileTree
import BoolQuery.Proofs.Text.Split

/-!
# Where paths lead

An absolute path names a location by its segments alone (`Path.location`). Following it through a
tree ends there if it ends at all (`follow_eq_ok`), and segments that say nothing make no difference
in front of one that does (`follow_filter`). So absolute paths of a name in a directory that mean
the same lead to the same location, or fail alike (`locate_child_of_same`).
-/

namespace BoolQuery

namespace Location

/-- A name that a directory can have: it is a segment that means itself. -/
structure IsName (name : Text) : Prop where
  noSlash : '/' ∉ name
  speaks : Path.isSilent name = false
  notUp : name ≠ ['.', '.']

/-- A location whose names are all possible. -/
def IsProper (location : Location) : Prop := ∀ name ∈ location, IsName name

variable {location : Location} {name : Text}

@[simp] theorem step_nil (location : Location) : location.step [] = location := rfl

/-- A silent segment leads nowhere else. -/
theorem step_silent (location : Location) {segment : Text} (silent : Path.isSilent segment = true) :
    location.step segment = location := if_pos silent

/-- A name leads into the directory of this name. -/
theorem step_name (location : Location) (isName : IsName name) :
    location.step name = location ++ [name] := by
  simp [step, isName.speaks, isName.notUp]

/-- Following the names of a proper location leads there. -/
theorem IsProper.foldl_step (proper : location.IsProper) (start : Location) :
    location.foldl step start = start ++ location := by
  induction location generalizing start with
  | nil => simp
  | cons name names inductionHypothesis =>
      obtain ⟨isName, others⟩ := List.forall_mem_cons.mp proper
      rw [List.foldl_cons, step_name start isName, inductionHypothesis others]
      simp

end Location

namespace Path

/-- The location that an absolute path names. -/
def location (path : Path) : Location :=
  (Text.splitAtEach '/' path.text).foldl Location.step []

/-- The path of a name within a directory ends with the segment of this name, and the segments
before it lead where the path of the directory leads. -/
theorem exists_splitAtEach_child (directory : Path) {name : Text} (noSlash : '/' ∉ name) :
    ∃ front, Text.splitAtEach '/' (directory.child name).text = front ++ [name] ∧
      ∀ start : Location, front.foldl Location.step start =
        (Text.splitAtEach '/' directory.text).foldl Location.step start := by
  have single := Text.splitAtEach_of_not_mem noSlash
  unfold child
  split
  · next noLast =>
      rw [List.getLast?_eq_none_iff.mp noLast]
      exact ⟨[], single, fun start => (Location.step_nil start).symm⟩
  · next slash =>
      obtain ⟨front, ended⟩ := List.getLast?_eq_some_iff.mp slash
      refine ⟨Text.splitAtEach '/' front, ?_, fun start => ?_⟩
      · rw [ended, List.append_assoc, List.singleton_append, Text.splitAtEach_append, single]
      · rw [ended, Text.splitAtEach_append, List.foldl_append]
        exact (Location.step_nil _).symm
  · exact ⟨Text.splitAtEach '/' directory.text, by rw [Text.splitAtEach_append, single],
      fun start => rfl⟩

/-- A file lies at its name within the location of its directory. -/
theorem location_child (directory : Path) {name : Text} (isName : Location.IsName name) :
    (directory.child name).location = directory.location ++ [name] := by
  obtain ⟨front, segments, leads⟩ := exists_splitAtEach_child directory isName.noSlash
  rw [location, segments, List.foldl_append, leads]
  exact Location.step_name _ isName

/-- A file in an absolute directory has an absolute path. -/
theorem isAbsolute_child {directory : Path} (absolute : directory.isAbsolute = true) (name : Text) :
    (directory.child name).isAbsolute = true := by
  obtain ⟨rest, starts⟩ := List.head?_eq_some_iff.mp (by simpa [isAbsolute] using absolute)
  unfold child
  split
  · next noLast => simp [starts] at noLast
  · simp [isAbsolute, starts]
  · simp [isAbsolute, starts]

/-- The path of a location leads to it. -/
theorem location_path {location : Location} (proper : location.IsProper) :
    location.path.location = location := by
  rw [Path.location, Location.path, Text.splitAtEach_self, List.foldl_cons, Location.step_nil]
  cases location with
  | nil => rfl
  | cons name names =>
      have noSlash : ∀ segment ∈ name :: names, '/' ∉ segment :=
        fun segment member => (proper segment member).noSlash
      rw [Text.splitAtEach_joinWith (List.cons_ne_nil _ _) noSlash, proper.foldl_step,
        List.nil_append]

/-- Absolute paths start with a segment that says nothing, before those that their components come
from. -/
theorem exists_of_isAbsolute {path : Path} (absolute : path.isAbsolute = true) :
    ∃ segments, Text.splitAtEach '/' path.text = [] :: segments ∧
      path.components = .root :: (segments.filter (!isSilent ·)).map component := by
  obtain ⟨rest, starts⟩ := List.head?_eq_some_iff.mp (by simpa [isAbsolute] using absolute)
  refine ⟨Text.splitAtEach '/' rest, by rw [starts, Text.splitAtEach_self], ?_⟩
  simp [components, split, starts]

/-- A path whose components start with the root is absolute. -/
theorem isAbsolute_of_components {path : Path} {rest : List Component}
    (starts : path.components = .root :: rest) : path.isAbsolute = true := by
  have notRoot : ∀ segments : List Text, .root ∉ segments.map component := by
    intro segments member
    obtain ⟨segment, _, same⟩ := List.mem_map.mp member
    unfold component at same
    split at same <;> cases same
  by_cases slash : path.split.1 = ['/']
  · unfold split at slash
    split at slash <;> simp_all [isAbsolute]
  · change (if path.split.1 == ['/'] then [.root] else if path.split.1 == ['.'] then [.here]
      else []) ++ (path.split.2.filter (!isSilent ·)).map component = _ at starts
    rw [if_neg (by simpa using slash)] at starts
    split at starts
    · cases starts
    · exact absurd (List.mem_of_head? (congrArg List.head? starts)) (notRoot _)

/-- Different segments stand for different components. -/
theorem component_injective {left right : Text} (same : component left = component right) :
    left = right := by
  unfold component at same
  split at same <;> split at same <;> simp_all

/-- Paths that mean the same have the same segments, but for those that say nothing. -/
theorem filter_splitAtEach_of_same {left right : Path} (absolute : right.isAbsolute = true)
    (same : left.same right = true) :
    (Text.splitAtEach '/' left.text).filter (!isSilent ·) =
      (Text.splitAtEach '/' right.text).filter (!isSilent ·) := by
  obtain ⟨rightSegments, rightSplit, rightComponents⟩ := exists_of_isAbsolute absolute
  have equal : left.components = right.components := by simpa [Path.same] using same
  obtain ⟨leftSegments, leftSplit, leftComponents⟩ :=
    exists_of_isAbsolute (isAbsolute_of_components (equal.trans rightComponents))
  rw [leftComponents, rightComponents] at equal
  have spoken := (List.map_inj_right fun _ _ => component_injective).mp (List.cons.inj equal).2
  rw [leftSplit, rightSplit]
  exact spoken

end Path

namespace FileTree

variable {tree : FileTree} {start target : Location} {segments : List Text}

/-- Following segments ends where they lead. -/
theorem follow_eq_ok (found : tree.follow start segments = .ok target) :
    target = segments.foldl Location.step start := by
  induction segments generalizing start with
  | nil => simpa [follow, eq_comm] using found
  | cons segment rest inductionHypothesis =>
      rw [follow] at found
      split at found
      · cases found
      · cases found
      · exact inductionHypothesis found

/-- A segment that says nothing makes no difference in front of another one. -/
theorem follow_silent {segment : Text} (silent : Path.isSilent segment = true)
    (more : segments ≠ []) :
    tree.follow start (segment :: segments) = tree.follow start segments := by
  obtain ⟨next, rest, rfl⟩ := List.exists_cons_of_ne_nil more
  rw [follow, Location.step_silent start silent, follow]
  split <;> rfl

/-- In front of a segment that says something, only such segments matter. -/
theorem follow_filter {name : Text} (speaks : Path.isSilent name = false) (front : List Text)
    (start : Location) :
    tree.follow start (front ++ [name]) =
      tree.follow start ((front ++ [name]).filter (!Path.isSilent ·)) := by
  induction front generalizing start with
  | nil => simp [speaks]
  | cons segment front inductionHypothesis =>
      cases silent : Path.isSilent segment with
      | true =>
          rw [List.cons_append, follow_silent silent (by simp), inductionHypothesis]
          simp [silent]
      | false =>
          rw [List.cons_append, List.filter_cons_of_pos (by simp [silent]), follow, follow]
          split
          · rfl
          · rfl
          · exact inductionHypothesis _

/-- An absolute path is followed from the root, whatever the working directory. -/
theorem locate_of_isAbsolute {path : Path} (absolute : path.isAbsolute = true)
    (directory : Location) :
    tree.locate directory path = tree.follow [] (Text.splitAtEach '/' path.text) := by
  obtain ⟨rest, starts⟩ :=
    List.head?_eq_some_iff.mp (by simpa [Path.isAbsolute] using absolute)
  simp [locate, absolute, starts]

/-- An absolute path leads to the location that it names, if to any. -/
theorem locate_eq_ok {path : Path} {directory : Location} (absolute : path.isAbsolute = true)
    (found : tree.locate directory path = .ok target) : target = path.location := by
  rw [locate_of_isAbsolute absolute] at found
  exact follow_eq_ok found

/-- Paths of the same name in two directories that mean the same lead to the same location, or
fail alike. -/
theorem locate_child_of_same {left right : Path} {name : Text} (isName : Location.IsName name)
    (absolute : (right.child name).isAbsolute = true)
    (same : (left.child name).same (right.child name) = true) (directory : Location) :
    tree.locate directory (left.child name) = tree.locate directory (right.child name) := by
  obtain ⟨_, _, components⟩ := Path.exists_of_isAbsolute absolute
  have equal : (left.child name).components = (right.child name).components := by
    simpa [Path.same] using same
  have leftAbsolute := Path.isAbsolute_of_components (equal.trans components)
  obtain ⟨leftFront, leftSplit, _⟩ := Path.exists_splitAtEach_child left isName.noSlash
  obtain ⟨rightFront, rightSplit, _⟩ := Path.exists_splitAtEach_child right isName.noSlash
  have spoken := Path.filter_splitAtEach_of_same absolute same
  rw [leftSplit, rightSplit] at spoken
  rw [locate_of_isAbsolute leftAbsolute, locate_of_isAbsolute absolute, leftSplit, rightSplit,
    follow_filter isName.speaks, spoken, ← follow_filter isName.speaks]

end FileTree
end BoolQuery
