import Mathlib.Data.List.Basic
import TagSelection.Selection.Filter
import TagSelection.Suite.Pruning

/-!
# The tests of a filtered and of a pruned suite

Filtering and pruning build a new tree, and the effective tags of its tests are found
by walking that tree anew.  Below every group and with every tags inherited from
outside, the walk of a filtered group lists the wanted entries of the original walk,
in their order, and the walk of a pruned group lists the same entries as before.
-/

namespace TagSelection.Group

mutual

/-- A property of all suites follows from its passing from child groups to groups. -/
@[elab_as_elim]
theorem induction {motive : Group → Prop}
    (group : ∀ name tags groups tests,
      (∀ child ∈ groups, motive child) → motive ⟨name, tags, groups, tests⟩) :
    ∀ suite, motive suite
  | ⟨name, tags, groups, tests⟩ =>
      group name tags groups tests (inductionOfAll group groups)

theorem inductionOfAll {motive : Group → Prop}
    (group : ∀ name tags groups tests,
      (∀ child ∈ groups, motive child) → motive ⟨name, tags, groups, tests⟩) :
    ∀ groups : List Group, ∀ child ∈ groups, motive child
  | [], child, member => by
      cases member
  | first :: rest, child, member => by
      have firstHolds := induction group first
      rcases List.mem_cons.1 member with isFirst | later
      · rwa [isFirst]
      · exact inductionOfAll group rest child later

end

theorem placedTestsFrom_group (inherited : TagSet) (path : List String) (name : String)
    (tags : TagSet) (groups : List Group) (tests : List TestCase) :
    placedTestsFrom inherited path ⟨name, tags, groups, tests⟩ =
      ownPlacedTests (inherited ∪ tags) (path ++ [name]) tests ++
        groups.flatMap (placedTestsFrom (inherited ∪ tags) (path ++ [name])) := by
  rw [placedTestsFrom, placedTestsOfAll_eq_flatMap]

theorem ownPlacedTests_filter (wanted : TagSet → Bool) (inherited : TagSet)
    (path : List String) (tests : List TestCase) :
    ownPlacedTests inherited path (tests.filter fun test => wanted (inherited ∪ test.tags)) =
      (ownPlacedTests inherited path tests).filter fun entry => wanted entry.tags := by
  rw [ownPlacedTests, ownPlacedTests, List.filter_map]
  rfl

/-- The tests of a filtered group are those of the group that are wanted. -/
theorem placedTestsFrom_keepTests (wanted : TagSet → Bool) (suite : Group)
    (inherited : TagSet) (path : List String) :
    placedTestsFrom inherited path (keepTests wanted inherited suite) =
      (placedTestsFrom inherited path suite).filter fun entry => wanted entry.tags := by
  induction suite using Group.induction generalizing inherited path with
  | group name tags groups tests inductionHypothesis =>
      rw [keepTests, placedTestsFrom_group, placedTestsFrom_group, List.filter_append,
        ownPlacedTests_filter, keepTestsOfAll_eq_map, List.flatMap_map,
        List.filter_flatMap]
      congr 1
      exact List.flatMap_congr fun child member =>
        inductionHypothesis child member (inherited ∪ tags) (path ++ [name])

theorem eq_of_isEmpty {suite : Group} (empty : suite.isEmpty = true) :
    suite = ⟨suite.name, suite.tags, [], []⟩ := by
  obtain ⟨name, tags, groups, tests⟩ := suite
  simp only [isEmpty, Bool.and_eq_true, List.isEmpty_iff] at empty
  obtain ⟨rfl, rfl⟩ := empty
  rfl

theorem placedTestsFrom_of_isEmpty {suite : Group} (empty : suite.isEmpty = true)
    (inherited : TagSet) (path : List String) :
    placedTestsFrom inherited path suite = [] := by
  rw [eq_of_isEmpty empty]
  rfl

/-- Groups that are dropped because they are empty have listed no tests. -/
theorem flatMap_placedTestsFrom_nonempty (inherited : TagSet) (path : List String)
    (groups : List Group) :
    (groups.filter (!·.isEmpty)).flatMap (placedTestsFrom inherited path) =
      groups.flatMap (placedTestsFrom inherited path) := by
  induction groups with
  | nil => rfl
  | cons group rest inductionHypothesis =>
      by_cases empty : group.isEmpty = true
      · rw [List.filter_cons_of_neg (by simp [empty]), List.flatMap_cons,
          placedTestsFrom_of_isEmpty empty, List.nil_append, inductionHypothesis]
      · rw [List.filter_cons_of_pos (by simp [empty]), List.flatMap_cons,
          List.flatMap_cons, inductionHypothesis]

theorem placedTestsFrom_prune (suite : Group) (inherited : TagSet) (path : List String) :
    placedTestsFrom inherited path suite.prune = placedTestsFrom inherited path suite := by
  induction suite using Group.induction generalizing inherited path with
  | group name tags groups tests inductionHypothesis =>
      rw [prune, placedTestsFrom_group, placedTestsFrom_group, pruneAll_eq_filter,
        flatMap_placedTestsFrom_nonempty, List.flatMap_map]
      congr 1
      exact List.flatMap_congr fun child member =>
        inductionHypothesis child member (inherited ∪ tags) (path ++ [name])

theorem placedTests_prune (suite : Group) : suite.prune.placedTests = suite.placedTests :=
  placedTestsFrom_prune suite ∅ []

theorem length_flatMap_eq_sizeOfAll {entries : Group → List PlacedTest}
    {groups : List Group}
    (sameLength : ∀ child ∈ groups, (entries child).length = child.size) :
    (groups.flatMap entries).length = sizeOfAll groups := by
  induction groups with
  | nil => rfl
  | cons group rest inductionHypothesis =>
      have first := sameLength group List.mem_cons_self
      have others :=
        inductionHypothesis fun child member => sameLength child (List.mem_cons_of_mem _ member)
      rw [List.flatMap_cons, List.length_append, first, others, sizeOfAll]

theorem length_placedTestsFrom (suite : Group) (inherited : TagSet)
    (path : List String) :
    (placedTestsFrom inherited path suite).length = suite.size := by
  induction suite using Group.induction generalizing inherited path with
  | group name tags groups tests inductionHypothesis =>
      have children :
          (groups.flatMap (placedTestsFrom (inherited ∪ tags) (path ++ [name]))).length =
            sizeOfAll groups :=
        length_flatMap_eq_sizeOfAll fun child member =>
          inductionHypothesis child member (inherited ∪ tags) (path ++ [name])
      rw [placedTestsFrom_group, List.length_append, children, size, ownPlacedTests,
        List.length_map]

/-- The size of a suite is the number of its tests. -/
theorem length_placedTests (suite : Group) : suite.placedTests.length = suite.size :=
  length_placedTestsFrom suite ∅ []

end TagSelection.Group
