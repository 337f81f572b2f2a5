import Mathlib.Data.List.Basic
import TagSelection.Proofs.Suite.Entries

/-!
# Passes over a suite

Filtering and pruning rebuild a suite from the inside out.  Two filter passes in a row
are one pass with both wishes, and a pass that wishes for everything changes nothing.
Pruning before a filter pass makes no difference to what is left after pruning behind
it: a group that pruning drops has no tests below it, so that filtering leaves none
there either.
-/

namespace TagSelection.Group

theorem keepTests_group (wanted : TagSet → Bool) (inherited : TagSet) (name : String)
    (tags : TagSet) (groups : List Group) (tests : List TestCase) :
    keepTests wanted inherited ⟨name, tags, groups, tests⟩ =
      ⟨name, tags, groups.map (keepTests wanted (inherited ∪ tags)),
        tests.filter fun test => wanted (inherited ∪ tags ∪ test.tags)⟩ := by
  rw [keepTests, keepTestsOfAll_eq_map]

theorem prune_group (name : String) (tags : TagSet) (groups : List Group)
    (tests : List TestCase) :
    prune ⟨name, tags, groups, tests⟩ =
      ⟨name, tags, (groups.map prune).filter (!·.isEmpty), tests⟩ := by
  rw [prune, pruneAll_eq_filter]

theorem keepTests_of_forall {wanted : TagSet → Bool}
    (everything : ∀ tags, wanted tags = true) (suite : Group) (inherited : TagSet) :
    keepTests wanted inherited suite = suite := by
  induction suite using Group.induction generalizing inherited with
  | group name tags groups tests inductionHypothesis =>
      have sameGroups : groups.map (keepTests wanted (inherited ∪ tags)) = groups := by
        calc
          groups.map (keepTests wanted (inherited ∪ tags)) = groups.map id :=
            List.map_congr_left fun child member =>
              inductionHypothesis child member (inherited ∪ tags)
          _ = groups := List.map_id groups
      have sameTests :
          (tests.filter fun test => wanted (inherited ∪ tags ∪ test.tags)) = tests :=
        List.filter_eq_self.2 fun test _ => everything _
      rw [keepTests_group, sameGroups, sameTests]

theorem keepTests_keepTests (first second : TagSet → Bool) (suite : Group)
    (inherited : TagSet) :
    keepTests second inherited (keepTests first inherited suite) =
      keepTests (fun tags => first tags && second tags) inherited suite := by
  induction suite using Group.induction generalizing inherited with
  | group name tags groups tests inductionHypothesis =>
      have sameGroups :
          (groups.map (keepTests first (inherited ∪ tags))).map
              (keepTests second (inherited ∪ tags)) =
            groups.map
              (keepTests (fun tags => first tags && second tags) (inherited ∪ tags)) := by
        rw [List.map_map]
        exact List.map_congr_left fun child member =>
          inductionHypothesis child member (inherited ∪ tags)
      rw [keepTests_group, keepTests_group, keepTests_group, sameGroups,
        List.filter_filter]
      simp only [Bool.and_comm]

theorem isEmpty_keepTests {suite : Group} (empty : suite.isEmpty = true)
    (wanted : TagSet → Bool) (inherited : TagSet) :
    (keepTests wanted inherited suite).isEmpty = true := by
  rw [eq_of_isEmpty empty]
  rfl

theorem isEmpty_prune {suite : Group} (empty : suite.isEmpty = true) :
    suite.prune.isEmpty = true := by
  rw [eq_of_isEmpty empty]
  rfl

/-- Child groups that pruning drops leave nothing behind a filter pass either. -/
theorem nonempty_prune_keepTests_nonempty {wanted : TagSet → Bool} {inherited : TagSet}
    {groups : List Group}
    (same : ∀ child ∈ groups,
      (keepTests wanted inherited child.prune).prune =
        (keepTests wanted inherited child).prune) :
    ((((groups.map prune).filter (!·.isEmpty)).map (keepTests wanted inherited)).map
        prune).filter (!·.isEmpty) =
      ((groups.map (keepTests wanted inherited)).map prune).filter (!·.isEmpty) := by
  induction groups with
  | nil => rfl
  | cons group rest inductionHypothesis =>
      have first := same group List.mem_cons_self
      have others :=
        inductionHypothesis fun child member => same child (List.mem_cons_of_mem _ member)
      by_cases dropped : group.prune.isEmpty = true
      -- A child that pruning drops has no tests, so the pass leaves none there either.
      · have nothingLeft :
            (keepTests wanted inherited group).prune.isEmpty = true := by
          rw [← first]
          exact isEmpty_prune (isEmpty_keepTests dropped wanted inherited)
        simp only [List.map_cons, List.filter_cons, dropped, nothingLeft, Bool.not_true,
          Bool.false_eq_true, if_false]
        exact others
      · simp only [List.map_cons, List.filter_cons, dropped, first, Bool.not_false,
          if_true, others]

/-- Pruning before a filter pass makes no difference if the result is pruned. -/
theorem prune_keepTests_prune (wanted : TagSet → Bool) (suite : Group)
    (inherited : TagSet) :
    (keepTests wanted inherited suite.prune).prune =
      (keepTests wanted inherited suite).prune := by
  induction suite using Group.induction generalizing inherited with
  | group name tags groups tests inductionHypothesis =>
      rw [prune_group, keepTests_group, keepTests_group, prune_group, prune_group,
        nonempty_prune_keepTests_nonempty fun child member =>
          inductionHypothesis child member (inherited ∪ tags)]

theorem prune_keepTests_congr {suite other : Group} (same : suite.prune = other.prune)
    (wanted : TagSet → Bool) (inherited : TagSet) :
    (keepTests wanted inherited suite).prune = (keepTests wanted inherited other).prune := by
  rw [← prune_keepTests_prune, same, prune_keepTests_prune]

theorem prune_prune (suite : Group) : suite.prune.prune = suite.prune := by
  have unchanged : ∀ other, keepTests (fun _ => true) ∅ other = other :=
    fun other => keepTests_of_forall (fun _ => rfl) other ∅
  have around := prune_keepTests_prune (fun _ => true) suite ∅
  rwa [unchanged, unchanged] at around

end TagSelection.Group
