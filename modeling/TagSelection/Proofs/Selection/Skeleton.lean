import TagSelection.Proofs.Selection.Shortcut
import TagSelection.Proofs.Suite.Descents
import TagSelection.Proofs.TagSet.FirstOccurrence

/-!
# The skeleton of a filtered suite

Filtering rebuilds a suite group by group.  Wherever a group stood there stands one with
the same name, the same tags and as many child groups.  Only tests go, and whether a test
goes depends on nothing but the tags of the groups around it and its own.

What carries the induction is that the tags inherited at the end of a descent are those
of the groups that the descent passes, in that order.
-/

namespace TagSelection

namespace Group

/-- The tags of groups, outermost first, and then those of a test inside them, each tag
once. -/
def tagsInside (enclosing : List Group) (test : TestCase) : TagSet :=
  .ofList (enclosing.flatMap (fun group => group.tags.toList) ++ test.tags.toList)

theorem tagsInside_concat (around : List Group) (group : Group) (test : TestCase) :
    tagsInside (around ++ [group]) test =
      TagSet.ofList (around.flatMap fun group => group.tags.toList) ∪ group.tags ∪
        test.tags := by
  rw [TagSet.ofList_union, TagSet.ofList_union, tagsInside, List.flatMap_append]
  simp

/-- The group that was kept is the group that stood inside others, up to its tests that
are not wanted; of its child groups only the number is compared. -/
structure IsThinned (wanted : TagSet → Bool) (around : List Group) (group kept : Group) :
    Prop where
  name_eq : kept.name = group.name
  tags_eq : kept.tags = group.tags
  length_groups : kept.groups.length = group.groups.length
  tests_eq :
    kept.tests =
      group.tests.filter fun test => wanted (tagsInside (around ++ [group]) test)

/-- The filtered suite has a thinned group wherever the suite has a group, and none
elsewhere. -/
structure KeepsSkeleton (wanted : TagSet → Bool) (suite filtered : Group) : Prop where
  everywhere : ∀ descent around group,
    suite.descend? descent = some (around, group) →
      ∃ kept, filtered.groupAt? descent = some kept ∧ IsThinned wanted around group kept
  nowhereElse : ∀ descent kept,
    filtered.groupAt? descent = some kept →
      ∃ group, suite.groupAt? descent = some group

variable {wanted : TagSet → Bool}

theorem keepTests_groups (suite : Group) (inherited : TagSet) :
    (suite.keepTests wanted inherited).groups =
      suite.groups.map (keepTests wanted (inherited ∪ suite.tags)) := by
  obtain ⟨name, tags, groups, tests⟩ := suite
  rw [keepTests_group]

/-- At the end of a descent a pass works with the tags from outside the suite and those of
the groups around. -/
theorem keepTests_groupAt? {suite group : Group} {descent : List Nat}
    {around : List Group} (reached : suite.descend? descent = some (around, group))
    (outer : List Tag) :
    (suite.keepTests wanted (.ofList outer)).groupAt? descent =
      some (group.keepTests wanted
        (.ofList (outer ++ around.flatMap fun group => group.tags.toList))) := by
  induction descent generalizing suite around outer with
  | nil =>
      cases reached
      simp
  | cons index descent inductionHypothesis =>
      obtain ⟨child, inner, isChild, reachedBelow, rfl⟩ :=
        descend?_cons_eq_some_iff.1 reached
      -- The pass enters the child with the tags of this group behind those from outside.
      rw [groupAt?_cons_eq_some_iff]
      refine ⟨child.keepTests wanted (.ofList (outer ++ suite.tags.toList)), ?_, ?_⟩
      · rw [keepTests_groups, TagSet.ofList_union, List.getElem?_map, isChild]
        rfl
      · rw [inductionHypothesis reachedBelow, List.flatMap_cons, List.append_assoc]

theorem exists_groupAt?_of_keepTests {suite kept : Group} {descent : List Nat}
    {inherited : TagSet}
    (reached : (suite.keepTests wanted inherited).groupAt? descent = some kept) :
    ∃ group, suite.groupAt? descent = some group := by
  induction descent generalizing suite inherited with
  | nil => exact ⟨suite, rfl⟩
  | cons index descent inductionHypothesis =>
      obtain ⟨keptChild, isKeptChild, reachedBelow⟩ := groupAt?_cons_eq_some_iff.1 reached
      rw [keepTests_groups, List.getElem?_map, Option.map_eq_some_iff] at isKeptChild
      obtain ⟨child, isChild, rfl⟩ := isKeptChild
      obtain ⟨group, isGroup⟩ := inductionHypothesis reachedBelow
      exact ⟨group, groupAt?_cons_eq_some_iff.2 ⟨child, isChild, isGroup⟩⟩

theorem isThinned_keepTests (around : List Group) (group : Group) :
    IsThinned wanted around group
      (group.keepTests wanted
        (.ofList (around.flatMap fun group => group.tags.toList))) := by
  obtain ⟨name, tags, groups, tests⟩ := group
  rw [keepTests_group]
  refine ⟨rfl, rfl, List.length_map _, ?_⟩
  simp only [tagsInside_concat]

theorem keepsSkeleton_keepTests (wanted : TagSet → Bool) (suite : Group) :
    KeepsSkeleton wanted suite (suite.keepTests wanted ∅) where
  everywhere := by
    intro descent around group reached
    have kept := @keepTests_groupAt? wanted _ _ _ _ reached []
    rw [List.nil_append] at kept
    exact ⟨_, kept, isThinned_keepTests around group⟩
  nowhereElse := fun _ _ reached => exists_groupAt?_of_keepTests reached

end Group

open TestFilter

def ThinsOnly {Filter : Type} [TestFilter Filter] (filter : Filter) : Prop :=
  ∀ suite : Group, Group.KeepsSkeleton (keeps filter) suite (select filter suite).suite

theorem TestFilter.Honest.thinsOnly {Filter : Type} [TestFilter Filter] {filter : Filter}
    (honest : Honest filter) : ThinsOnly filter := by
  intro suite
  rw [suite_select honest]
  exact Group.keepsSkeleton_keepTests (keeps filter) suite

theorem Condition.honest (condition : Condition) : Honest condition := by
  intro everything
  cases everything

/-- Filtering leaves every group of a suite in its place with its name and its tags, and
takes away exactly the tests that are not wanted, whatever kind of filter it is. -/
theorem filtering_keeps_skeleton :
    (∀ condition : Condition, ThinsOnly condition) ∧
      (∀ expression filter, ExpressionFilter.ofExpression expression = .ok filter →
        ThinsOnly filter ∧ ThinsOnly (SelectionFilter.expression filter)) ∧
      ∀ filter : TagListFilter,
        ThinsOnly filter ∧ ThinsOnly (SelectionFilter.tagLists filter) := by
  refine ⟨fun condition => condition.honest.thinsOnly, ?_, ?_⟩
  · intro expression filter isFilter
    have honest := ExpressionFilter.honest_of_ofExpression isFilter
    have honestSelected : Honest (SelectionFilter.expression filter) := honest
    exact ⟨honest.thinsOnly, honestSelected.thinsOnly⟩
  · intro filter
    have honest := honest_tagListFilter filter
    have honestSelected : Honest (SelectionFilter.tagLists filter) := honest
    exact ⟨honest.thinsOnly, honestSelected.thinsOnly⟩

theorem filtering_keeps_skeleton_nested :
    let io : Group :=
      ⟨"io", .ofList ["slow", "disk"], [⟨"empty", ∅, [], []⟩],
        [⟨"read", .ofList ["unit"], true⟩, ⟨"sync", ∅, false⟩, ⟨"read", .ofList ["unit"], true⟩]⟩
    let suite : Group := ⟨"all", .ofList ["api"], [⟨"text", ∅, [], [⟨"trim", ∅, false⟩]⟩, io], []⟩
    let filter : ExpressionFilter :=
      { expression := "and(api, unit)", condition := .and [.has "api", .has "unit"] }
    ExpressionFilter.ofExpression "and(api, unit)" = .ok filter ∧
      suite.descend? [1] = some ([suite], io) ∧
      ∃ kept, (select filter suite).suite.groupAt? [1] = some kept ∧
        kept.name = "io" ∧ kept.tags = .ofList ["slow", "disk"] ∧ kept.groups.length = 1 ∧
        kept.tests =
          [⟨"read", .ofList ["unit"], true⟩, ⟨"read", .ofList ["unit"], true⟩] := by
  intro io suite filter
  have isFilter : ExpressionFilter.ofExpression "and(api, unit)" = .ok filter := by decide
  have reached : suite.descend? [1] = some ([suite], io) := rfl
  have thins := (filtering_keeps_skeleton.2.1 _ filter isFilter).1 suite
  obtain ⟨kept, isKept, thinned⟩ := thins.everywhere [1] _ io reached
  refine ⟨isFilter, reached, kept, isKept, thinned.name_eq, thinned.tags_eq,
    thinned.length_groups, ?_⟩
  rw [thinned.tests_eq]
  decide

end TagSelection
