import TagSelection.Proofs.Condition.WellFormed
import TagSelection.Proofs.Selection.Pass

/-!
# Handing a suite back as it is

A filter that is known to keep every test hands its suite back without looking at it.
For an expression this is decided on the text, for lists of tags by their being empty.
In both cases the decision is right: the filter admits every set of tags, and walking
through the suite would have rebuilt the same suite.

That a text restricts nothing only if it is blank rests on the grammar, which derives no
conjunction without operands.
-/

namespace TagSelection

open TestFilter

theorem Expression.isUnrestricted_iff_blank {expression : String} {condition : Condition}
    (parsed : Expression.parse expression = .ok condition) :
    condition.isUnrestricted = true ↔ Text.isBlankText expression = true := by
  cases blank : Text.isBlankText expression with
  | true =>
      rw [parse_of_blank blank] at parsed
      cases parsed
      simp [Condition.unrestricted, Condition.isUnrestricted]
  | false =>
      -- A described condition is well-formed, and so no conjunction of nothing.
      have describes := describes_of_parse blank parsed
      simp [describes.wellFormed.not_unrestricted]

theorem Condition.holds_of_isUnrestricted {condition : Condition}
    (unrestricted : condition.isUnrestricted = true) (tags : TagSet) :
    condition.holds tags = true := by
  cases condition with
  | and operands =>
      cases operands with
      | nil => rfl
      | cons => cases unrestricted
  | has | or | not => cases unrestricted

namespace ExpressionFilter

variable {expression : String} {filter : ExpressionFilter}

theorem keepsAll_iff_isUnrestricted (isFilter : ofExpression expression = .ok filter) :
    keepsAll filter = true ↔ filter.condition.isUnrestricted = true := by
  obtain ⟨rfl, parsed⟩ := ofExpression_eq_ok_iff.1 isFilter
  exact (Expression.isUnrestricted_iff_blank parsed).symm

theorem honest_of_ofExpression (isFilter : ofExpression expression = .ok filter) :
    Honest filter := by
  intro everything tags
  have unrestricted := (keepsAll_iff_isUnrestricted isFilter).1 everything
  exact Condition.holds_of_isUnrestricted unrestricted tags

end ExpressionFilter

/-- Where the filter decides to hand a suite back as it is, it admits every set of tags,
and the walk through a suite gives that same suite. -/
def LosesNothing {Filter : Type} [TestFilter Filter] (filter : Filter) : Prop :=
  keepsAll filter = true →
    (∀ tags, keeps filter tags = true) ∧
      ∀ suite : Group,
        suite.keepTests (keeps filter) ∅ = suite ∧
          (select filter suite).isUntouched = true ∧ (select filter suite).suite = suite

theorem TestFilter.Honest.losesNothing {Filter : Type} [TestFilter Filter]
    {filter : Filter} (honest : Honest filter) : LosesNothing filter := by
  intro everything
  have admitsAll := honest everything
  refine ⟨admitsAll, fun suite => ⟨Group.keepTests_of_forall admitsAll suite ∅, ?_⟩⟩
  rw [select, if_pos everything]
  exact ⟨rfl, rfl⟩

theorem honest_tagListFilter (filter : TagListFilter) : Honest filter :=
  Selection.honest_tagLists
    { tags := filter.tags, excludedTags := filter.excludedTags }

namespace Selection

variable {selection : Selection} {filter : SelectionFilter}

theorem keepsAll_iff_no_restriction (isFilter : selection.toFilter = .ok filter) :
    keepsAll filter = true ↔
      Text.isBlankText selection.expression = true ∧ selection.tags = ∅ ∧
        selection.excludedTags = ∅ := by
  rcases toFilter_eq_ok_iff.1 isFilter with
    ⟨blank, rfl⟩ | ⟨notBlank, inner, isInner, rfl⟩
  · change (selection.tags.isEmpty && selection.excludedTags.isEmpty) = true ↔ _
    rw [Bool.and_eq_true, TagSet.isEmpty_iff, TagSet.isEmpty_iff]
    simp [blank]
  · obtain ⟨sameExpression, _⟩ := ExpressionFilter.ofExpression_eq_ok_iff.1 isInner
    change Text.isBlankText inner.expression = true ↔ _
    rw [sameExpression]
    simp [notBlank]

/-- Suites are handed back as they are only where nothing is lost by it: by the filter of
an expression exactly if its condition has no restriction, and for a selection exactly if
its expression is blank and its lists are empty. -/
theorem handing_back_loses_nothing :
    (∀ expression filter, ExpressionFilter.ofExpression expression = .ok filter →
      (keepsAll filter = true ↔ filter.condition.isUnrestricted = true) ∧
        (keepsAll filter = true ↔ Text.isBlankText expression = true) ∧
        LosesNothing filter ∧ LosesNothing (SelectionFilter.expression filter)) ∧
      (∀ filter : TagListFilter,
        LosesNothing filter ∧ LosesNothing (SelectionFilter.tagLists filter)) ∧
      ∀ (selection : Selection) (filter : SelectionFilter),
        selection.toFilter = .ok filter →
          (∀ inner, filter = .expression inner → keepsAll filter = false) ∧
            (keepsAll filter = true ↔
              Text.isBlankText selection.expression = true ∧ selection.tags = ∅ ∧
                selection.excludedTags = ∅) := by
  refine ⟨?_, ?_, ?_⟩
  · intro expression filter isFilter
    obtain ⟨rfl, _⟩ := ExpressionFilter.ofExpression_eq_ok_iff.1 isFilter
    have honest := ExpressionFilter.honest_of_ofExpression isFilter
    -- The filter of a selection decides as the filter inside it does.
    have honestSelected : Honest (SelectionFilter.expression filter) := honest
    exact ⟨ExpressionFilter.keepsAll_iff_isUnrestricted isFilter, Iff.rfl,
      honest.losesNothing, honestSelected.losesNothing⟩
  · intro filter
    have honest := honest_tagListFilter filter
    have honestSelected : Honest (SelectionFilter.tagLists filter) := honest
    exact ⟨honest.losesNothing, honestSelected.losesNothing⟩
  · intro selection filter isFilter
    refine ⟨?_, keepsAll_iff_no_restriction isFilter⟩
    rintro inner rfl
    rcases toFilter_eq_ok_iff.1 isFilter with ⟨_, impossible⟩ | ⟨notBlank, _⟩
    · cases impossible
    · rw [← Bool.not_eq_true, keepsAll_iff_no_restriction isFilter, notBlank]
      simp

theorem handing_back_loses_nothing_nested :
    let suite : Group :=
      ⟨"all", .ofList ["unit", "api"],
        [⟨"io", .ofList ["slow"], [⟨"disk", ∅, [], []⟩], [⟨"read", .ofList ["unit"], true⟩]⟩],
        []⟩
    let filter : ExpressionFilter := { expression := " ", condition := .unrestricted }
    ExpressionFilter.ofExpression " " = .ok filter ∧
      suite.keepTests (keeps filter) ∅ = suite ∧
      (TestFilter.select (SelectionFilter.expression filter) suite).isUntouched = true ∧
      toFilter { expression := "not(slow)" } =
        .ok (.expression ⟨"not(slow)", .not (some (.has "slow"))⟩) ∧
      keepsAll (SelectionFilter.expression ⟨"not(slow)", .not (some (.has "slow"))⟩) =
        false := by
  intro suite filter
  have isFilter : ExpressionFilter.ofExpression " " = .ok filter := by decide
  have isOther :
      toFilter { expression := "not(slow)" } =
        .ok (.expression ⟨"not(slow)", .not (some (.has "slow"))⟩) := by
    decide
  obtain ⟨_, blank_iff, loses, losesSelected⟩ := handing_back_loses_nothing.1 " " filter isFilter
  have everything := blank_iff.2 (by decide)
  exact ⟨isFilter, ((loses everything).2 suite).1, ((losesSelected everything).2 suite).2.1,
    isOther, (handing_back_loses_nothing.2.2 _ _ isOther).1 _ rfl⟩

end Selection

end TagSelection
