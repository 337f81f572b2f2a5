import TagSelection.Proofs.Condition.WellFormed
import TagSelection.Proofs.Selection.Pass
import TagSelection.Proofs.Suite.Alike

/-!
# Selections do not look at the order of tags

The order in which tags were added to a set is shown and written, but nothing is decided
by it.  Two selections with the same expression and with the same tags in their lists,
made from two suites that are alike, give alike suites or fail alike.
-/

namespace TagSelection

theorem Condition.holds_congr {condition : Condition} {left right : TagSet}
    (sameLeaves : ∀ tag ∈ condition.leaves, tag ∈ left ↔ tag ∈ right) :
    condition.holds left = condition.holds right := by
  induction condition using Condition.induction with
  | has tag =>
      have sameLeaf := sameLeaves tag (List.mem_singleton_self tag)
      simp only [holds, sameLeaf]
  | and operands inductionHypothesis =>
      rw [holds, holds, allHold_eq_all, allHold_eq_all, Bool.eq_iff_iff, List.all_eq_true,
        List.all_eq_true]
      refine forall₂_congr fun operand among => ?_
      rw [inductionHypothesis operand among (forall_leaves_of_mem sameLeaves among)]
  | or operands inductionHypothesis =>
      rw [holds, holds, someHolds_eq_any, someHolds_eq_any, Bool.eq_iff_iff,
        List.any_eq_true, List.any_eq_true]
      refine exists_congr fun operand => and_congr_right fun among => ?_
      rw [inductionHypothesis operand among (forall_leaves_of_mem sameLeaves among)]
  | negation operand inductionHypothesis =>
      rw [holds, holds, inductionHypothesis sameLeaves]
  | missing => rfl

theorem Condition.holds_agree (condition : Condition) :
    Group.AgreeUpToOrder (fun tags => condition.holds tags)
      (fun tags => condition.holds tags) := by
  intro tags otherTags same
  have sameMembers := TagSet.sameTags_iff.1 same
  exact Condition.holds_congr fun tag _ => sameMembers tag

namespace Selection

/-- Two selections that differ at most in the order of the tags in their lists. -/
structure Alike (left right : Selection) : Prop where
  expression_eq : left.expression = right.expression
  sameTags : left.tags.sameTags right.tags = true
  sameExcludedTags : left.excludedTags.sameTags right.excludedTags = true

/-- Two filters that make the same decision about sets with the same tags and that are
both, or both not, known to keep every test. -/
structure FiltersAgree (filter otherFilter : SelectionFilter) : Prop where
  keepsAll_eq : TestFilter.keepsAll filter = TestFilter.keepsAll otherFilter
  keeps_agree : Group.AgreeUpToOrder (TestFilter.keeps filter) (TestFilter.keeps otherFilter)

variable {left right : Selection}

theorem filtersAgree_tagLists (same : left.Alike right) :
    FiltersAgree (.tagLists ⟨left.tags, left.excludedTags⟩)
      (.tagLists ⟨right.tags, right.excludedTags⟩) := by
  have sameWanted := TagSet.isEmpty_eq_of_sameTags same.sameTags
  have sameExcluded := TagSet.isEmpty_eq_of_sameTags same.sameExcludedTags
  constructor
  · change (left.tags.isEmpty && left.excludedTags.isEmpty) =
      (right.tags.isEmpty && right.excludedTags.isEmpty)
    rw [sameWanted, sameExcluded]
  · intro tags otherTags alike
    have meets := TagSet.disjoint_eq_of_sameTags alike same.sameTags
    have avoids := TagSet.disjoint_eq_of_sameTags alike same.sameExcludedTags
    change ((left.tags.isEmpty || !tags.disjoint left.tags) &&
        tags.disjoint left.excludedTags) =
      ((right.tags.isEmpty || !otherTags.disjoint right.tags) &&
        otherTags.disjoint right.excludedTags)
    rw [sameWanted, meets, avoids]

/-- Selections that are alike have no filter for the same reason, or filters that
agree. -/
theorem toFilter_alike (same : left.Alike right) :
    (∃ fault, left.toFilter = .error fault ∧ right.toFilter = .error fault) ∨
      ∃ filter otherFilter, left.toFilter = .ok filter ∧ right.toFilter = .ok otherFilter ∧
        FiltersAgree filter otherFilter := by
  have sameExpression := same.expression_eq
  cases blank : Text.isBlankText left.expression with
  | true =>
      have otherBlank : Text.isBlankText right.expression = true := by
        rwa [← sameExpression]
      exact Or.inr ⟨_, _, toFilter_of_blank blank, toFilter_of_blank otherBlank,
        filtersAgree_tagLists same⟩
  | false =>
      have otherNotBlank : Text.isBlankText right.expression = false := by
        rwa [← sameExpression]
      -- The expression decides alone, and it is the same for both.
      have sameFilter : right.toFilter = left.toFilter := by
        rw [toFilter, toFilter, if_neg (by simp [otherNotBlank]), if_neg (by simp [blank]),
          sameExpression]
      rw [sameFilter]
      cases parsed : Expression.parse left.expression with
      | error fault =>
          have refused : left.toFilter = .error fault := by
            rw [toFilter, blank, ExpressionFilter.ofExpression, parsed]
            rfl
          exact Or.inl ⟨fault, refused, refused⟩
      | ok condition =>
          have isFilter := toFilter_of_parse blank parsed
          exact Or.inr ⟨_, _, isFilter, isFilter, rfl, condition.holds_agree⟩

theorem select_of_refused {selection : Selection} {fault : Expression.Fault}
    (refused : selection.toFilter = .error fault) (suite : Group) (prune : Bool) :
    selection.select suite prune = .error fault := by
  rw [select, refused]
  rfl

theorem pass_alike {filter otherFilter : SelectionFilter} (isFilter : left.toFilter = .ok filter)
    (isOtherFilter : right.toFilter = .ok otherFilter) (agree : FiltersAgree filter otherFilter)
    {suite other : Group} (sameSuite : suite.alike other = true) (prune : Bool) :
    (left.pass suite prune).alike (right.pass other prune) = true := by
  have kept :
      (suite.keepTests left.admits ∅).alike (other.keepTests right.admits ∅) = true := by
    rw [admits_of_toFilter isFilter, admits_of_toFilter isOtherFilter]
    exact Group.keepTests_alike agree.keeps_agree sameSuite (TagSet.sameTags_refl ∅)
  cases prune with
  | true => exact Group.prune_alike kept
  | false => exact kept

/-- Selections and suites that differ in the order of tags alone have filters that agree
and give suites that differ in the order of tags alone, or they fail for one reason. -/
theorem select_regardless_of_tag_order {suite other : Group} (same : left.Alike right)
    (sameSuite : suite.alike other = true) (prune : Bool) :
    List.Forall₂ PlacedTest.Alike suite.placedTests other.placedTests ∧
      ((∃ fault,
          left.toFilter = .error fault ∧ right.toFilter = .error fault ∧
            left.select suite prune = .error fault ∧
            right.select other prune = .error fault) ∨
        ∃ filter otherFilter selected otherSelected,
          left.toFilter = .ok filter ∧ right.toFilter = .ok otherFilter ∧
            FiltersAgree filter otherFilter ∧
            left.select suite prune = .ok selected ∧
            right.select other prune = .ok otherSelected ∧
            selected.alike otherSelected = true ∧
            List.Forall₂ PlacedTest.Alike selected.placedTests otherSelected.placedTests) := by
  refine ⟨Group.placedTests_alike sameSuite, ?_⟩
  rcases toFilter_alike same with
    ⟨fault, refused, otherRefused⟩ | ⟨filter, otherFilter, isFilter, isOtherFilter, agree⟩
  · exact Or.inl ⟨fault, refused, otherRefused, select_of_refused refused suite prune,
      select_of_refused otherRefused other prune⟩
  · have alike := pass_alike isFilter isOtherFilter agree sameSuite prune
    exact Or.inr ⟨filter, otherFilter, _, _, isFilter, isOtherFilter, agree,
      select_eq_pass isFilter suite prune, select_eq_pass isOtherFilter other prune, alike,
      Group.placedTests_alike alike⟩

theorem select_regardless_of_tag_order_swapped :
    let suite : Group :=
      ⟨"all", .ofList ["api", "slow"],
        [⟨"io", .ofList ["slow", "disk"], [], [⟨"read", .ofList ["unit", "api"], true⟩]⟩,
          ⟨"text", ∅, [], [⟨"trim", ∅, false⟩]⟩],
        []⟩
    let other : Group :=
      ⟨"all", .ofList ["slow", "api"],
        [⟨"io", .ofList ["disk", "slow"], [], [⟨"read", .ofList ["api", "unit"], true⟩]⟩,
          ⟨"text", ∅, [], [⟨"trim", ∅, false⟩]⟩],
        []⟩
    let left : Selection :=
      { tags := .ofList ["unit", "disk"], excludedTags := .ofList ["flaky", "old"] }
    let right : Selection :=
      { tags := .ofList ["disk", "unit"], excludedTags := .ofList ["old", "flaky"] }
    left.Alike right ∧ suite.alike other = true ∧
      ∃ selected otherSelected,
        left.select suite true = .ok selected ∧
          right.select other true = .ok otherSelected ∧
          selected.alike otherSelected = true ∧
          selected.placedTests.map (fun entry => entry.tags.toList) =
            [["api", "slow", "disk", "unit"]] ∧
          otherSelected.placedTests.map (fun entry => entry.tags.toList) =
            [["slow", "api", "disk", "unit"]] := by
  intro suite other left right
  have same : left.Alike right := ⟨rfl, by decide, by decide⟩
  have sameSuite : suite.alike other = true := by decide
  refine ⟨same, sameSuite, ?_⟩
  rcases (select_regardless_of_tag_order same sameSuite true).2 with
    ⟨fault, refused, _⟩ | ⟨_, _, selected, otherSelected, _, _, _, isSelected, isOther, alike, _⟩
  · rw [toFilter_of_blank (by decide)] at refused
    cases refused
  · refine ⟨selected, otherSelected, isSelected, isOther, alike, ?_, ?_⟩
    · cases isSelected
      decide
    · cases isOther
      decide

end Selection

end TagSelection
