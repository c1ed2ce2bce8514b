import BoolQuery.Proofs.Settings.Additions

/-!
# Precedence among settings files

Files are merged from the last one to the first, each in place of what the files behind it say.
Every setting goes its own way in this: in the end it has the value from the first file that defines
it, or the default if none does (`value_merge`). All other laws of merging follow from this search
for a first definition (`merge_takesFirst`).
-/

namespace BoolQuery

/-- What settings files may define. -/
inductive Setting where
  | stemmer
  | strict
  | anyCase
deriving DecidableEq, Repr

/-- The values of a setting. -/
def Setting.Value : Setting → Type
  | .stemmer => Text
  | .strict | .anyCase => Bool

/-- The value that a setting has. -/
def QuerySettings.value (settings : QuerySettings) : (setting : Setting) → setting.Value
  | .stemmer => settings.stemmer
  | .strict => settings.strict
  | .anyCase => settings.anyCase

/-- The value that a layer defines for a setting, if it does. -/
def QueryLayer.value? (layer : QueryLayer) : (setting : Setting) → Option setting.Value
  | .stemmer => layer.stemmer
  | .strict => layer.strict
  | .anyCase => layer.anyCase

/-- The value that a file defines for a setting, if it does. -/
def SourceLayer.value? (file : SourceLayer) (setting : Setting) : Option setting.Value :=
  file.layer.query.bind (·.value? setting)

/-- Settings are determined by the values of all settings. -/
theorem QuerySettings.ext_value {left right : QuerySettings}
    (same : ∀ setting, left.value setting = right.value setting) : left = right := by
  obtain ⟨stemmer, strict, anyCase⟩ := left
  have sameStemmer : stemmer = right.stemmer := same .stemmer
  have sameStrict : strict = right.strict := same .strict
  have sameAnyCase : anyCase = right.anyCase := same .anyCase
  rw [sameStemmer, sameStrict, sameAnyCase]

/-- A file changes exactly the settings that it defines. -/
theorem SourceLayer.value_overlay (file : SourceLayer) (settings : QuerySettings)
    (setting : Setting) :
    (file.overlay settings).value setting =
      (file.value? setting).getD (settings.value setting) := by
  unfold SourceLayer.overlay SourceLayer.value?
  cases file.layer.query with
  | none => rfl
  | some layer => cases setting <;> rfl

namespace Settings

variable {setting : Setting}

/-- Merging lays the first file over the merged others. -/
theorem query_merge_cons (file : SourceLayer) (files : List SourceLayer) :
    (merge (file :: files)).query = file.overlay (merge files).query := rfl

/-- Every setting has the value from the first file that defines it, or the default. -/
theorem value_merge (files : List SourceLayer) (setting : Setting) :
    (merge files).query.value setting =
      (files.findSome? (·.value? setting)).getD (QuerySettings.default.value setting) := by
  induction files with
  | nil => rfl
  | cons file files inductionHypothesis =>
      rw [query_merge_cons, SourceLayer.value_overlay, List.findSome?_cons, inductionHypothesis]
      cases file.value? setting <;> rfl

/-- The files behind decide what none of those in front defines. -/
theorem value_merge_append (front back : List SourceLayer) (setting : Setting) :
    (merge (front ++ back)).query.value setting =
      (front.findSome? (·.value? setting)).getD ((merge back).query.value setting) := by
  rw [value_merge, value_merge, List.findSome?_append]
  cases front.findSome? (·.value? setting) <;> rfl

/-- The first of two lists of files decides on the settings that it defines, the second one on the
others. -/
theorem value_merge_split (front back : List SourceLayer) (setting : Setting) :
    (merge (front ++ back)).query.value setting =
      if front.any fun file => (file.value? setting).isSome then
        (merge front).query.value setting
      else (merge back).query.value setting := by
  rw [value_merge_append, ← List.isSome_findSome?]
  cases found : front.findSome? (·.value? setting) with
  | none => rfl
  | some value => simp [value_merge, found]

/-- A file makes no difference if every setting that it defines has the same value defined in front
of it, or is not defined by it at all. -/
theorem query_merge_insert {front : List SourceLayer} {file : SourceLayer}
    (back : List SourceLayer)
    (redundant : ∀ setting, file.value? setting = none ∨
      (front.findSome? (·.value? setting)).isSome = true) :
    (merge (front ++ file :: back)).query = (merge (front ++ back)).query := by
  refine QuerySettings.ext_value fun setting => ?_
  rw [value_merge_append, value_merge_append, query_merge_cons, SourceLayer.value_overlay]
  rcases redundant setting with silent | defined
  · rw [silent]
    rfl
  · obtain ⟨value, found⟩ := Option.isSome_iff_exists.mp defined
    rw [found]
    rfl

/-- Each setting is taken from the first file that defines it, and otherwise has its default value;
the sources are the files in order, and the directory is that of the first file. So if the files are
split in two, the first part decides on every setting that one of its files defines, and the second
part on the others. A file that defines nothing may be put anywhere, and what a file says may be
repeated anywhere behind it, without changing a setting. -/
theorem merge_takesFirst (files : List SourceLayer) :
    (∀ setting, (merge files).query.value setting =
      (files.findSome? (·.value? setting)).getD (QuerySettings.default.value setting)) ∧
    (merge files).sources = files.map (·.path) ∧
    (merge files).directory = files.head?.bind (·.path.parent?) ∧
    ∀ front back, files = front ++ back →
      (∀ setting, (merge files).query.value setting =
        if front.any fun file => (file.value? setting).isSome then
          (merge front).query.value setting
        else (merge back).query.value setting) ∧
      (∀ silent : SourceLayer, (∀ setting, silent.value? setting = none) →
        (merge (front ++ silent :: back)).query = (merge files).query) ∧
      ∀ again : SourceLayer, (∃ earlier ∈ front, earlier.layer = again.layer) →
        (merge (front ++ again :: back)).query = (merge files).query := by
  refine ⟨value_merge files, rfl, rfl, ?_⟩
  rintro front back rfl
  refine ⟨value_merge_split front back, fun silent definesNothing => ?_, ?_⟩
  · exact query_merge_insert back fun setting => .inl (definesNothing setting)
  · rintro again ⟨earlier, member, sameLayer⟩
    refine query_merge_insert back fun setting => ?_
    have sameValue : earlier.value? setting = again.value? setting := by
      rw [SourceLayer.value?, SourceLayer.value?, sameLayer]
    cases defined : again.value? setting with
    | none => exact .inl rfl
    | some value =>
        rw [List.isSome_findSome?, List.any_eq_true]
        exact .inr ⟨earlier, member, by rw [sameValue, defined]; rfl⟩

/-- Three files that each decide on one setting. A file without settings and a repeated one are put
behind the first two. -/
theorem merge_takesFirst_of_three :
    let near : SourceLayer := ⟨⟨"/a/b/.rpn.toml".toList⟩, none, some ⟨none, some true, none⟩⟩
    let middle : SourceLayer :=
      ⟨⟨"/a/.rpn.toml".toList⟩, none, some ⟨some "none", some false, none⟩⟩
    let far : SourceLayer := ⟨⟨"/.rpn.toml".toList⟩, none, some ⟨some "french", none, some true⟩⟩
    let silent : SourceLayer := ⟨⟨"/s/.rpn.toml".toList⟩, some false, none⟩
    (merge [near, middle, far]).query = ⟨"none", true, true⟩ ∧
    (merge [near, middle, far]).query.value .anyCase = (merge [far]).query.value .anyCase ∧
    (merge [near, middle, silent, far]).query = (merge [near, middle, far]).query ∧
    (merge [near, middle, near, far]).query = (merge [near, middle, far]).query := by
  intro near middle far silent
  obtain ⟨_, _, _, splits⟩ := merge_takesFirst [near, middle, far]
  obtain ⟨shared, inert, repeated⟩ := splits [near, middle] [far] rfl
  refine ⟨rfl, shared .anyCase, inert silent fun setting => ?_, repeated near ⟨near, ?_, rfl⟩⟩
  · cases setting <;> rfl
  · exact List.mem_cons_self

end Settings
end BoolQuery
