import BoolQuery.Proofs.Path

/-!
# Trees that grow

A tree grows if files are added where there was nothing and everything else stays. Directories are
never added, so a path that leads to a location keeps leading there (`locate_eq_ok_iff`), and what
is read through a path is either what was there or an added file.
-/

namespace BoolQuery.FileTree

/-- The second tree differs from the first by files in places that were empty, each of them allowed
there with its content. -/
def Grows (allowed : Location → ByteArray → Prop) (before after : FileTree) : Prop :=
  ∀ location, after.entry? location = before.entry? location ∨
    before.entry? location = none ∧
      ∃ content, after.entry? location = some (.file content) ∧ allowed location content

namespace Grows

variable {allowed : Location → ByteArray → Prop} {before middle after : FileTree}
  {location : Location}

/-- A tree grows into itself. -/
theorem refl (tree : FileTree) : Grows allowed tree tree := fun _ => .inl rfl

/-- What grows twice grows altogether. -/
theorem trans (first : Grows allowed before middle) (second : Grows allowed middle after) :
    Grows allowed before after := by
  intro location
  rcases second location with kept | ⟨absent, added⟩
  · rw [kept]
    exact first location
  · rcases first location with same | ⟨_, content, found, _⟩
    · exact .inr ⟨same ▸ absent, added⟩
    · rw [found] at absent
      cases absent

/-- Allowing more places or contents does no harm. -/
theorem mono {wider : Location → ByteArray → Prop} (grows : Grows allowed before after)
    (weaken : ∀ location content, allowed location content → wider location content) :
    Grows wider before after := by
  intro location
  rcases grows location with kept | ⟨absent, content, found, isAllowed⟩
  · exact .inl kept
  · exact .inr ⟨absent, content, found, weaken location content isAllowed⟩

/-- Writing a file where there was nothing makes a tree grow. -/
theorem put {content : ByteArray} (absent : before.entry? location = none)
    (isAllowed : allowed location content) :
    Grows allowed before (before.put location (.file content)) := by
  intro other
  by_cases same : other = location
  · subst same
    exact .inr ⟨absent, content, by simp [FileTree.put], isAllowed⟩
  · exact .inl (by simp [FileTree.put, same])

/-- Files and directories stay as they are. -/
theorem entry?_eq_some {entry : Entry} (grows : Grows allowed before after)
    (found : before.entry? location = some entry) : after.entry? location = some entry := by
  rcases grows location with kept | ⟨absent, _⟩
  · exact kept.trans found
  · rw [found] at absent
    cases absent

/-- Growing makes no directory and removes none. -/
theorem directory_iff (grows : Grows allowed before after) :
    after.entry? location = some .directory ↔ before.entry? location = some .directory := by
  refine ⟨fun found => ?_, grows.entry?_eq_some⟩
  rcases grows location with kept | ⟨_, _, file, _⟩
  · rwa [kept] at found
  · rw [file] at found
    cases found

/-- Paths lead through a grown tree as they did before, since only directories are passed. -/
theorem follow_eq_ok_iff (grows : Grows allowed before after) {start target : Location}
    {segments : List Text} :
    after.follow start segments = .ok target ↔ before.follow start segments = .ok target := by
  induction segments generalizing start with
  | nil => rfl
  | cons segment rest inductionHypothesis =>
      have cases_ok : ∀ tree : FileTree, tree.follow start (segment :: rest) = .ok target ↔
          tree.entry? start = some .directory ∧
            tree.follow (start.step segment) rest = .ok target := by
        intro tree
        rw [follow]
        split <;> simp_all
      rw [cases_ok, cases_ok, grows.directory_iff, inductionHypothesis]

/-- Paths are located in a grown tree where they were before. -/
theorem locate_eq_ok_iff (grows : Grows allowed before after) {directory target : Location}
    {path : Path} :
    after.locate directory path = .ok target ↔ before.locate directory path = .ok target := by
  unfold locate
  split
  · rfl
  · exact grows.follow_eq_ok_iff

end Grows
end BoolQuery.FileTree
