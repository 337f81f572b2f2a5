import TagSelection.Proofs.Expression.Language
import TagSelection.Proofs.Suite.Entries
import TagSelection.Selection

/-!
# The selected tests

Selecting from a suite lists exactly those tests of the suite whose effective tags the
selection admits, each as often as before, in the same order, and with the same place
and the same effective tags; pruning makes no difference to that list.  A selection
whose expression is refused selects nothing, whatever the suite.
-/

namespace TagSelection

namespace TestFilter

variable {Filter : Type} [TestFilter Filter]

/-- A filter that is known to keep every test does keep every test. -/
def Honest (filter : Filter) : Prop :=
  keepsAll filter = true → ∀ tags, keeps filter tags = true

/-- Handing the suite back as it is agrees with rebuilding it. -/
theorem placedTests_select {filter : Filter} (honest : Honest filter) (suite : Group) :
    (select filter suite).suite.placedTests =
      suite.placedTests.filter fun entry => keeps filter entry.tags := by
  unfold select
  split
  case isTrue everything =>
    have kept := honest everything
    exact (List.filter_eq_self.2 fun entry _ => kept entry.tags).symm
  case isFalse =>
    exact Group.placedTestsFrom_keepTests (keeps filter) suite ∅ []

end TestFilter

namespace Selection

/-- The lists admit the tags: one of them is wanted, unless nothing is wanted, and none
of them is excluded. -/
def ListsAdmit (selection : Selection) (tags : TagSet) : Prop :=
  (selection.tags = ∅ ∨ ∃ tag ∈ tags.toList, tag ∈ selection.tags) ∧
    ∀ tag ∈ tags.toList, tag ∉ selection.excludedTags

instance (selection : Selection) (tags : TagSet) :
    Decidable (selection.ListsAdmit tags) :=
  inferInstanceAs (Decidable (_ ∧ _))

theorem keeps_tagLists_iff (selection : Selection) (tags : TagSet) :
    TestFilter.keeps
        (TagListFilter.mk selection.tags selection.excludedTags) tags = true ↔
      selection.ListsAdmit tags := by
  change ((selection.tags.isEmpty || !tags.disjoint selection.tags) &&
    tags.disjoint selection.excludedTags) = true ↔ _
  rw [Bool.and_eq_true, Bool.or_eq_true, TagSet.isEmpty_iff, Bool.not_eq_true',
    ← Bool.not_eq_true, TagSet.disjoint_iff, TagSet.disjoint_iff]
  simp only [ListsAdmit, TagSet.mem_iff, not_forall, not_not, exists_prop]

theorem honest_tagLists (selection : Selection) :
    TestFilter.Honest (TagListFilter.mk selection.tags selection.excludedTags) := by
  intro everything tags
  change (selection.tags.isEmpty && selection.excludedTags.isEmpty) = true at everything
  rw [Bool.and_eq_true, TagSet.isEmpty_iff, TagSet.isEmpty_iff] at everything
  rw [keeps_tagLists_iff]
  refine ⟨Or.inl everything.1, ?_⟩
  intro tag _
  rw [everything.2]
  exact TagSet.not_mem_empty tag

/-- The selection gives a suite that lists the wanted tests in their order, and that
counts as many. -/
def Lists (selection : Selection) (suite : Group) (prune : Bool)
    (wanted : TagSet → Prop) [DecidablePred wanted] : Prop :=
  ∃ selected,
    selection.select suite prune = .ok selected ∧
      selected.placedTests = suite.placedTests.filter (fun entry => wanted entry.tags) ∧
      selected.size = (suite.placedTests.filter fun entry => wanted entry.tags).length

theorem lists_of_toFilter {selection : Selection} {filter : SelectionFilter}
    (isFilter : selection.toFilter = .ok filter) (honest : TestFilter.Honest filter)
    {wanted : TagSet → Prop} [DecidablePred wanted]
    (keeps_iff : ∀ tags, TestFilter.keeps filter tags = true ↔ wanted tags)
    (suite : Group) (prune : Bool) : selection.Lists suite prune wanted := by
  have sameDecision :
      (fun entry : PlacedTest => TestFilter.keeps filter entry.tags) =
        fun entry => decide (wanted entry.tags) := by
    funext entry
    rw [Bool.eq_iff_iff, keeps_iff, decide_eq_true_eq]
  have listed := TestFilter.placedTests_select honest suite
  rw [sameDecision] at listed
  rw [Lists, select, isFilter, ← listed]
  cases prune with
  | true =>
      have pruned :=
        Group.placedTests_prune (TestFilter.select filter suite).suite
      exact ⟨_, rfl, pruned, by rw [← pruned]; exact (Group.length_placedTests _).symm⟩
  | false =>
      exact ⟨_, rfl, rfl, (Group.length_placedTests _).symm⟩

theorem honest_expression {selection : Selection} (condition : Condition)
    (notBlank : Text.isBlankText selection.expression = false) :
    TestFilter.Honest
      (SelectionFilter.expression { expression := selection.expression, condition }) := by
  intro everything
  change Text.isBlankText selection.expression = true at everything
  rw [notBlank] at everything
  cases everything

/-- A selection lists exactly the tests that it admits, and fails exactly as its
expression does. -/
theorem select_lists_admitted_tests (selection : Selection) (suite : Group)
    (prune : Bool) :
    (∀ fault,
      Text.isBlankText selection.expression = false →
        Expression.parse selection.expression = .error fault →
          selection.select suite prune = .error fault) ∧
      (∀ condition,
        Text.isBlankText selection.expression = false →
          Expression.parse selection.expression = .ok condition →
            selection.Lists suite prune (fun tags => condition.holds tags = true)) ∧
      (Text.isBlankText selection.expression = true →
        selection.Lists suite prune selection.ListsAdmit) := by
  refine ⟨?_, ?_, ?_⟩
  · intro fault notBlank refused
    rw [select, toFilter, notBlank, ExpressionFilter.ofExpression, refused]
    rfl
  · intro condition notBlank parsed
    have isFilter :
        selection.toFilter =
          .ok (.expression { expression := selection.expression, condition }) := by
      rw [toFilter, notBlank, ExpressionFilter.ofExpression, parsed]
      rfl
    exact lists_of_toFilter isFilter (honest_expression condition notBlank)
      (fun _ => Iff.rfl) suite prune
  · intro blank
    have isFilter :
        selection.toFilter =
          .ok (.tagLists ⟨selection.tags, selection.excludedTags⟩) := by
      rw [toFilter, blank]
      rfl
    exact lists_of_toFilter isFilter (honest_tagLists selection)
      (keeps_tagLists_iff selection) suite prune

theorem select_lists_admitted_tests_nested :
    let suite : Group :=
      ⟨"all", .ofList ["unit"],
        [⟨"io", .ofList ["slow"], [], [⟨"read", .ofList ["unit"], true⟩]⟩,
          ⟨"io", .ofList ["slow"], [], [⟨"read", .ofList ["unit"], true⟩]⟩,
          ⟨"text", ∅, [], [⟨"trim", .ofList ["fast"], false⟩]⟩],
        []⟩
    let read : PlacedTest :=
      ⟨["all", "io"], ⟨"read", .ofList ["unit"], true⟩, .ofList ["unit", "slow"]⟩
    select { expression := "slow)" } suite true = .error (.unmatchedClose 5) ∧
      (∃ selected,
        select { expression := "and(unit, slow)" } suite true = .ok selected ∧
          selected.placedTests = [read, read] ∧ selected.size = 2) ∧
      ∃ selected,
        select { tags := .ofList ["unit"], excludedTags := .ofList ["fast"] } suite false =
            .ok selected ∧
          selected.placedTests = [read, read] ∧ selected.size = 2 := by
  refine ⟨?_, ?_, ?_⟩
  · exact (select_lists_admitted_tests { expression := "slow)" } _ true).1 _
      (by decide) (by decide)
  · exact (select_lists_admitted_tests { expression := "and(unit, slow)" } _ true).2.1
      (.and [.has "unit", .has "slow"]) (by decide) (by decide)
  · exact (select_lists_admitted_tests
      { tags := .ofList ["unit"], excludedTags := .ofList ["fast"] } _ false).2.2 (by decide)

end Selection

end TagSelection
