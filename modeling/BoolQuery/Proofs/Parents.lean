import BoolQuery.Proofs.Path
import Mathlib.Data.List.Chain

/-!
# The parents of a path

`Splits` lists the ways in which a text is split into the start of a path and its segments. Taking
segments from the end leaves a text that is split into the same start and the other segments
(`Splits.shorten`). So a path and its parents are what one gets by taking components from its end,
one at a time, until nothing or only the root is left (`parents_cases`), and `induction_parents` is
the induction that follows them. The parents stand in a finite chain, each the parent of the one
before it (`selfAndParents_isChain`), and each with fewer components (`selfAndParents_pairwise`). A
name adds one component to any path (`components_child`).
-/

namespace BoolQuery.Path

/-! ### Splitting -/

/-- What the text of a path is split into. -/
inductive Splits : Text → Text → List Text → Prop where
  | absolute (rest : Text) : Splits ('/' :: rest) ['/'] (Text.splitAtEach '/' rest)
  | dot : Splits ['.'] ['.'] []
  | here (rest : Text) : Splits ('.' :: '/' :: rest) ['.'] ([] :: Text.splitAtEach '/' rest)
  /-- The first segment is no dot, and it is empty only if the text is. -/
  | relative {text first : Text} {more : List Text}
      (pieces : Text.splitAtEach '/' text = first :: more) (filled : first = [] → more = [])
      (notDot : first ≠ ['.']) : Splits text [] (first :: more)

variable {path : Path} {text start name : Text} {front back silent segments : List Text}

/-- Splitting a path finds the start and the segments that its text has. -/
theorem Splits.split_eq (splits : Splits text start segments) :
    (Path.mk text).split = (start, segments) := by
  cases splits with
  | absolute rest => rfl
  | dot => rfl
  | here rest => exact congrArg (['.'], ·) (Text.splitAtEach_self '/' rest)
  | relative pieces filled notDot =>
      unfold Path.split
      split
      · next rest starts =>
          subst starts
          rw [Text.splitAtEach_self, List.cons.injEq] at pieces
          obtain ⟨piece, others, exist⟩ := Text.exists_splitAtEach '/' rest
          simp [filled pieces.1.symm, exist] at pieces
      · next same =>
          subst same
          exact absurd (List.cons.inj pieces).1.symm notDot
      · next rest starts =>
          subst starts
          rw [Text.splitAtEach_cons (by decide), Text.splitAtEach_self] at pieces
          exact absurd (List.cons.inj pieces).1.symm notDot
      · rw [← pieces]

/-- Every text can be split. -/
theorem exists_splits (text : Text) : ∃ start segments, Splits text start segments := by
  obtain ⟨first, more, pieces⟩ := Text.exists_splitAtEach '/' text
  have joined := Text.joinWith_splitAtEach '/' text
  rw [pieces] at joined
  by_cases dot : first = ['.']
  · subst dot
    cases more with
    | nil => exact joined ▸ ⟨_, _, .dot⟩
    | cons second more => exact joined ▸ ⟨_, _, .here _⟩
  · by_cases filled : first = [] → more = []
    · exact ⟨_, _, .relative pieces filled dot⟩
    · obtain ⟨rfl, others⟩ := Classical.not_imp.mp filled
      rw [Text.joinWith_cons others] at joined
      exact joined ▸ ⟨_, _, .absolute _⟩

/-- Segments that do not end with one that says nothing. -/
def Ends (segments : List Text) : Prop :=
  ∀ last, segments.getLast? = some last → isSilent last = false

/-- A path that is cut off behind some of its segments is split into these, unless none are left: an
empty one may then take their place. -/
theorem Splits.shorten (splits : Splits text start (front ++ back)) (ends : Ends front) :
    Splits (start ++ Text.joinWith ['/'] front) start front ∨
      front = [] ∧ Splits start start [[]] := by
  generalize all : front ++ back = segments at splits
  cases splits with
  | absolute rest =>
      by_cases filled : front = []
      · exact .inr ⟨filled, .absolute []⟩
      · have cut := Splits.absolute (Text.joinWith ['/'] front)
        rw [Text.splitAtEach_joinWith_of_append all.symm filled] at cut
        exact .inl cut
  | dot =>
      obtain ⟨rfl, rfl⟩ := List.append_eq_nil_iff.mp all
      exact .inl .dot
  | here rest =>
      cases front with
      | nil => exact .inl .dot
      | cons first more =>
          obtain ⟨rfl, rest⟩ := List.cons.inj all
          have filled : more ≠ [] := by
            rintro rfl
            exact absurd (ends [] rfl) (by decide)
          have cut := Splits.here (Text.joinWith ['/'] more)
          rw [Text.splitAtEach_joinWith_of_append rest.symm filled] at cut
          rw [Text.joinWith_cons filled]
          exact .inl cut
  | relative pieces filled notDot =>
      cases front with
      | nil => exact .inr ⟨rfl, .relative rfl (fun _ => rfl) (by decide)⟩
      | cons first more =>
          rw [← all] at pieces
          obtain ⟨rfl, rest⟩ := List.cons.inj all
          -- An empty segment in front stands alone, so no path becomes an absolute one.
          have alone : first = [] → more = [] := fun empty =>
            (List.append_eq_nil_iff.mp (rest.trans (filled empty))).1
          exact .inl (.relative
            (Text.splitAtEach_joinWith_of_append pieces (List.cons_ne_nil _ _)) alone notDot)

/-! ### Components -/

/-- The component that the start of a path stands for. -/
def lead (start : Text) : List Component :=
  if start == ['/'] then [.root] else if start == ['.'] then [.here] else []

/-- The components that segments stand for. -/
def spoken (segments : List Text) : List Component :=
  (segments.filter (!isSilent ·)).map component

/-- The components of a path are that of its start and those of its segments. -/
theorem Splits.components_eq (splits : Splits text start segments) :
    (Path.mk text).components = lead start ++ spoken segments := by
  rw [components, splits.split_eq]
  rfl

/-- Segments stand for components one by one. -/
theorem spoken_append (front back : List Text) :
    spoken (front ++ back) = spoken front ++ spoken back := by
  simp [spoken]

/-- Silent segments stand for no components. -/
theorem spoken_of_silent (allSilent : ∀ segment ∈ segments, isSilent segment = true) :
    spoken segments = [] := by
  simpa [spoken] using allSilent

/-- Any other segment stands for one component. -/
theorem spoken_single {segment : Text} (speaks : isSilent segment = false) :
    spoken [segment] = [component segment] := by
  simp [spoken, speaks]

/-- No segment stands for the root. -/
theorem component_ne_root (segment : Text) : component segment ≠ .root := by
  unfold component
  split <;> simp

/-- A path has the components of the path before a slash and those of the segment behind it. -/
theorem components_append_slash (filled : text ≠ []) (noSlash : '/' ∉ name) :
    (Path.mk (text ++ '/' :: name)).components =
      (Path.mk text).components ++ spoken [name] := by
  have single := Text.splitAtEach_of_not_mem noSlash
  obtain ⟨start, segments, splits⟩ := exists_splits text
  suffices ∃ extended, Splits (text ++ '/' :: name) start extended ∧
      spoken extended = spoken (segments ++ [name]) by
    obtain ⟨extended, cut, same⟩ := this
    rw [cut.components_eq, same, splits.components_eq, spoken_append, List.append_assoc]
  cases splits with
  | absolute rest =>
      have extended := Splits.absolute (rest ++ '/' :: name)
      rw [Text.splitAtEach_append, single] at extended
      exact ⟨_, extended, rfl⟩
  | dot =>
      have extended := Splits.here name
      rw [single] at extended
      exact ⟨_, extended, rfl⟩
  | here rest =>
      have extended := Splits.here (rest ++ '/' :: name)
      rw [Text.splitAtEach_append, single] at extended
      exact ⟨_, extended, rfl⟩
  | @relative _ first more pieces nonempty notDot =>
      have extended : Text.splitAtEach '/' (text ++ '/' :: name) = first :: (more ++ [name]) := by
        rw [Text.splitAtEach_append, pieces, single]
        rfl
      refine ⟨_, .relative extended (fun empty => ?_) notDot, rfl⟩
      have joined := Text.joinWith_splitAtEach '/' text
      rw [pieces, empty, nonempty empty] at joined
      exact absurd joined.symm filled

/-- A name in a directory adds one component. -/
theorem components_child (directory : Path) (isName : Location.IsName name) :
    (directory.child name).components = directory.components ++ [.name name] := by
  have added : spoken [name] = [.name name] := by
    rw [spoken_single isName.speaks, component, if_neg (by simpa using isName.notUp)]
  obtain ⟨text⟩ := directory
  unfold child
  split
  · next noLast =>
      obtain rfl : text = [] := List.getLast?_eq_none_iff.mp noLast
      have pieces := Text.splitAtEach_of_not_mem isName.noSlash
      have notDot : name ≠ ['.'] := by
        rintro rfl
        exact absurd isName.speaks (by decide)
      rw [(Splits.relative pieces (fun _ => rfl) notDot).components_eq, added]
      rfl
  · next slash =>
      obtain ⟨front, ended⟩ := List.getLast?_eq_some_iff.mp slash
      change text = front ++ ['/'] at ended
      rw [ended, List.append_assoc, List.singleton_append]
      cases front with
      | nil =>
          have pieces := Splits.absolute name
          rw [Text.splitAtEach_of_not_mem isName.noSlash] at pieces
          rw [List.nil_append, pieces.components_eq, added]
          rfl
      | cons c front =>
          rw [components_append_slash (List.cons_ne_nil _ _) isName.noSlash, added,
            components_append_slash (List.cons_ne_nil _ _) List.not_mem_nil]
          exact congrArg (· ++ [Component.name name]) (List.append_nil _).symm
  · next c _ last =>
      have filled : text ≠ [] := by
        rintro rfl
        cases last
      rw [components_append_slash filled isName.noSlash, added]

/-- Files of one name have the same path exactly if their directories have the same components. -/
theorem same_child_iff {left right : Path} (isName : Location.IsName name) :
    (left.child name).same (right.child name) = true ↔ left.components = right.components := by
  rw [Path.same, beq_iff_eq, components_child left isName, components_child right isName,
    List.append_left_inj]

/-! ### Parents -/

/-- Silent segments at the end are taken without giving a parent. -/
theorem parentsFrom_silent (allSilent : ∀ segment ∈ silent, isSilent segment = true)
    (segments : List Text) :
    parentsFrom start (silent ++ segments) = parentsFrom start segments := by
  induction silent with
  | nil => rfl
  | cons segment silent inductionHypothesis =>
      obtain ⟨first, others⟩ := List.forall_mem_cons.mp allSilent
      rw [List.cons_append, parentsFrom, if_pos first, inductionHypothesis others]

/-- Segments end with those that say nothing, behind the last one that says something. -/
theorem exists_ends (segments : List Text) :
    ∃ silent, segments = (segments.reverse.dropWhile isSilent).reverse ++ silent ∧
      (∀ segment ∈ silent, isSilent segment = true) ∧
      Ends (segments.reverse.dropWhile isSilent).reverse := by
  refine ⟨(segments.reverse.takeWhile isSilent).reverse, ?_, fun segment member => ?_,
    fun last isLast => ?_⟩
  · rw [← List.reverse_append, List.takeWhile_append_dropWhile, List.reverse_reverse]
  · exact List.all_eq_true.mp List.all_takeWhile segment (List.mem_reverse.mp member)
  · rw [List.getLast?_reverse] at isLast
    have stopped := List.head?_dropWhile_not isSilent segments.reverse
    rw [isLast] at stopped
    simpa using stopped

/-- Segments at the end that say nothing count neither for the parents nor for the components. -/
theorem Splits.eq_of_silent (splits : Splits text start (front ++ silent))
    (allSilent : ∀ segment ∈ silent, isSilent segment = true) :
    (Path.mk text).parents = parentsFrom start front.reverse ∧
      (Path.mk text).components = lead start ++ spoken front := by
  constructor
  · rw [Path.parents, splits.split_eq, List.reverse_append]
    exact parentsFrom_silent (by simpa using allSilent) _
  · rw [splits.components_eq, spoken_append, spoken_of_silent allSilent, List.append_nil]

/-- The parent of a path is what is left in front of its last segment that says something. -/
theorem Splits.exists_parent {segment : Text}
    (splits : Splits text start (front ++ segment :: silent)) (speaks : isSilent segment = false)
    (allSilent : ∀ segment ∈ silent, isSilent segment = true) :
    ∃ parent, (Path.mk text).parents = parent :: parent.parents ∧
      (Path.mk text).components = parent.components ++ [component segment] := by
  obtain ⟨between, cut, betweenSilent, ends⟩ := exists_ends front
  have parents : parentsFrom start (segment :: front.reverse) =
      ⟨start ++ Text.joinWith ['/'] (front.reverse.dropWhile isSilent).reverse⟩ ::
        parentsFrom start front.reverse := by
    simp [parentsFrom, speaks]
  generalize (front.reverse.dropWhile isSilent).reverse = kept at cut ends parents
  subst cut
  have parent : (Path.mk (start ++ Text.joinWith ['/'] kept)).parents =
        parentsFrom start kept.reverse ∧
      (Path.mk (start ++ Text.joinWith ['/'] kept)).components = lead start ++ spoken kept := by
    rw [List.append_assoc] at splits
    rcases splits.shorten ends with shorter | ⟨rfl, alone⟩
    · have whole : Splits (start ++ Text.joinWith ['/'] kept) start (kept ++ []) := by
        rwa [List.append_nil]
      exact whole.eq_of_silent (by simp)
    · rw [Text.joinWith, List.append_nil]
      have bare : Splits start start ([] ++ [[]]) := alone
      exact bare.eq_of_silent (by decide)
  rw [← List.singleton_append, ← List.append_assoc] at splits
  obtain ⟨own, components⟩ := splits.eq_of_silent allSilent
  refine ⟨⟨start ++ Text.joinWith ['/'] kept⟩, ?_, ?_⟩
  · rw [own, parent.1, List.reverse_append, List.reverse_singleton, List.singleton_append, parents,
      List.reverse_append, parentsFrom_silent (by simpa using betweenSilent)]
  · rw [components, parent.2, spoken_append, spoken_append, spoken_of_silent betweenSilent,
      List.append_nil, spoken_single speaks, List.append_assoc]

/-- The parent of a path is what is left without its last component, and its parents are the other
parents. A path has no parent if there is no component or only the root. -/
theorem parents_cases (path : Path) :
    path.parents = [] ∧ (path.components = [] ∨ path.components = [.root]) ∨
      ∃ parent last, path.parents = parent :: parent.parents ∧
        path.components = parent.components ++ [last] ∧ last ≠ .root := by
  obtain ⟨text⟩ := path
  obtain ⟨start, segments, splits⟩ := exists_splits text
  obtain ⟨silent, cut, allSilent, ends⟩ := exists_ends segments
  generalize (segments.reverse.dropWhile isSilent).reverse = front at cut ends
  subst cut
  rcases List.eq_nil_or_concat front with rfl | ⟨others, segment, rfl⟩
  · -- Nothing is said but what the path starts with, and only a dot can be taken away.
    obtain ⟨parents, components⟩ := splits.eq_of_silent allSilent
    rw [parents, components]
    by_cases here : start = ['.']
    · subst here
      exact .inr ⟨⟨[]⟩, .here, rfl, rfl, by simp⟩
    · refine .inl ⟨by simp [parentsFrom, here], ?_⟩
      by_cases absolute : start = ['/']
      · exact .inr (by rw [absolute]; rfl)
      · exact .inl (by simp [lead, spoken, here, absolute])
  · rw [List.concat_eq_append] at splits ends
    rw [List.append_assoc, List.singleton_append] at splits
    obtain ⟨parent, parents, components⟩ :=
      splits.exists_parent (ends segment (by simp)) allSilent
    exact .inr ⟨parent, component segment, parents, components, component_ne_root segment⟩

/-- Induction over a path and its parents, from those without a parent on. -/
theorem induction_parents {motive : Path → Prop}
    (top : ∀ path : Path, path.parents = [] →
      path.components = [] ∨ path.components = [.root] → motive path)
    (below : ∀ (path parent : Path) (last : Component), path.parents = parent :: parent.parents →
      path.components = parent.components ++ [last] → last ≠ .root → motive parent → motive path)
    (path : Path) : motive path := by
  generalize count : path.components.length = n
  induction n generalizing path with
  | zero =>
      rcases parents_cases path with ⟨none, bare⟩ | ⟨parent, last, _, longer, _⟩
      · exact top path none bare
      · simp [longer] at count
  | succ n inductionHypothesis =>
      rcases parents_cases path with ⟨none, bare⟩ | ⟨parent, last, following, longer, notRoot⟩
      · exact top path none bare
      · refine below path parent last following longer notRoot (inductionHypothesis parent ?_)
        simpa [longer] using count

/-- A path stands before its parent and the parents of this. -/
theorem selfAndParents_of_parents {parent : Path}
    (following : path.parents = parent :: parent.parents) :
    path.selfAndParents = path :: parent.selfAndParents := by
  rw [selfAndParents, following, selfAndParents]

/-- The parents of a path are reached by going from parent to parent, until there is none. -/
theorem selfAndParents_isChain (path : Path) :
    path.selfAndParents.IsChain (fun inner outer => inner.parent? = some outer) ∧
      ∃ last, path.selfAndParents.getLast? = some last ∧ last.parent? = none := by
  induction path using induction_parents with
  | top path none _ =>
      rw [selfAndParents, none]
      exact ⟨.singleton path, path, rfl, by rw [parent?, none]; rfl⟩
  | below path parent last following _ _ inductionHypothesis =>
      obtain ⟨chain, last, isLast, none⟩ := inductionHypothesis
      rw [selfAndParents_of_parents following]
      refine ⟨?_, last, ?_, none⟩
      · rw [selfAndParents] at chain ⊢
        exact .cons_cons (by rw [parent?, following]; rfl) chain
      · rw [selfAndParents] at isLast ⊢
        rw [List.getLast?_cons_cons, isLast]

example : (Path.mk "./a//./..".toList).parents =
    [⟨"./a".toList⟩, ⟨".".toList⟩, ⟨"".toList⟩] := by decide

/-- What is kept of a path in one of its parents is the first of its components. -/
theorem isPrefix_of_mem_selfAndParents {place : Path} (member : place ∈ path.selfAndParents) :
    place.components <+: path.components := by
  induction path using induction_parents with
  | top path none _ =>
      rw [selfAndParents, none] at member
      exact List.mem_singleton.mp member ▸ List.prefix_rfl
  | below path parent last following longer _ inductionHypothesis =>
      rw [selfAndParents_of_parents following] at member
      rcases List.mem_cons.mp member with rfl | outer
      · exact List.prefix_rfl
      · rw [longer]
        exact (inductionHypothesis outer).trans (List.prefix_append _ _)

/-- A path and its parents have fewer and fewer components. -/
theorem selfAndParents_pairwise (path : Path) :
    path.selfAndParents.Pairwise fun nearer farther =>
      farther.components.length < nearer.components.length := by
  induction path using induction_parents with
  | top path none _ =>
      rw [selfAndParents, none]
      exact List.pairwise_singleton _ path
  | below path parent last following longer _ inductionHypothesis =>
      rw [selfAndParents_of_parents following, List.pairwise_cons]
      refine ⟨fun place member => ?_, inductionHypothesis⟩
      have shorter := (isPrefix_of_mem_selfAndParents member).length_le
      rw [longer, List.length_append, List.length_singleton]
      omega

/-- Behind a path or one of its parents stand the parents of that one. -/
theorem eq_parents_of_selfAndParents {place : Path} {front back : List Path}
    (split : path.selfAndParents = front ++ place :: back) : back = place.parents := by
  induction path using induction_parents generalizing front with
  | top path none _ =>
      rw [selfAndParents, none] at split
      obtain ⟨rfl, alone⟩ := List.singleton_eq_append_iff.mp split |>.resolve_right (by simp)
      obtain ⟨rfl, rfl⟩ := List.cons.inj alone
      exact none.symm
  | below path parent last following _ _ inductionHypothesis =>
      cases front with
      | nil =>
          obtain ⟨rfl, rfl⟩ := List.cons.inj split
          rfl
      | cons first front =>
          rw [selfAndParents_of_parents following] at split
          exact inductionHypothesis (List.cons.inj split).2

/-- Paths that mean the same have parents that mean the same. -/
theorem exists_parent_of_same {left right outer : Path}
    (same : left.components = right.components) (member : outer ∈ left.parents) :
    ∃ other ∈ right.parents, other.components = outer.components := by
  induction left using induction_parents generalizing right with
  | top left none _ => simp [none] at member
  | below left parent last following longer notRoot inductionHypothesis =>
      rcases right.parents_cases with ⟨_, bare⟩ | ⟨other, final, others, components, _⟩
      · rw [← same, longer] at bare
        simp [List.append_eq_singleton_iff, notRoot] at bare
      · rw [longer, components] at same
        obtain ⟨kept, _⟩ := List.append_inj' same rfl
        rw [following] at member
        rw [others]
        rcases List.mem_cons.mp member with rfl | farther
        · exact ⟨other, List.mem_cons_self, kept.symm⟩
        · obtain ⟨found, listed, equal⟩ := inductionHypothesis kept farther
          exact ⟨found, List.mem_cons_of_mem other listed, equal⟩

/-- The parents of an absolute path are absolute. -/
theorem isAbsolute_of_mem_parents {place : Path} (absolute : path.isAbsolute = true)
    (member : place ∈ path.parents) : place.isAbsolute = true := by
  induction path using induction_parents with
  | top path none _ => simp [none] at member
  | below path parent last following longer notRoot inductionHypothesis =>
      obtain ⟨_, _, rooted⟩ := exists_of_isAbsolute absolute
      rw [longer] at rooted
      have parentAbsolute : parent.isAbsolute = true := by
        cases kept : parent.components with
        | nil => simp [kept, notRoot] at rooted
        | cons first rest =>
            rw [kept, List.cons_append, List.cons.injEq] at rooted
            exact isAbsolute_of_components (rooted.1 ▸ kept)
      rw [following] at member
      rcases List.mem_cons.mp member with rfl | farther
      · exact parentAbsolute
      · exact inductionHypothesis parentAbsolute farther

end BoolQuery.Path
