import Mathlib.Data.List.Forall2
import TagSelection.Proofs.Suite.Passes
import TagSelection.Proofs.TagSet.SameTags

namespace TagSelection

namespace TestCase

theorem alike_iff {left right : TestCase} :
    left.alike right = true ↔
      left.name = right.name ∧ left.tags.sameTags right.tags = true ∧
        left.ignored = right.ignored := by
  simp [alike, and_assoc]

theorem allAlike_iff {left right : List TestCase} :
    allAlike left right = true ↔
      List.Forall₂ (fun leftTest rightTest => leftTest.alike rightTest = true) left right := by
  induction left generalizing right with
  | nil => cases right <;> simp [allAlike]
  | cons first rest inductionHypothesis =>
      cases right with
      | nil => simp [allAlike]
      | cons other others => simp [allAlike, inductionHypothesis]

end TestCase

namespace Group

theorem allAlike_iff {left right : List Group} :
    allAlike left right = true ↔
      List.Forall₂ (fun leftGroup rightGroup => leftGroup.alike rightGroup = true) left
        right := by
  induction left generalizing right with
  | nil => cases right <;> simp [allAlike]
  | cons first rest inductionHypothesis =>
      cases right with
      | nil => simp [allAlike]
      | cons other others => simp [allAlike, inductionHypothesis]

theorem alike_iff {left right : Group} :
    left.alike right = true ↔
      left.name = right.name ∧ left.tags.sameTags right.tags = true ∧
        List.Forall₂ (fun leftGroup rightGroup => leftGroup.alike rightGroup = true)
          left.groups right.groups ∧
        List.Forall₂ (fun leftTest rightTest => leftTest.alike rightTest = true)
          left.tests right.tests := by
  obtain ⟨leftName, leftTags, leftGroups, leftTests⟩ := left
  obtain ⟨rightName, rightTags, rightGroups, rightTests⟩ := right
  simp [alike, allAlike_iff, TestCase.allAlike_iff, and_assoc]

theorem alike_group_iff {leftName rightName : String} {leftTags rightTags : TagSet}
    {leftGroups rightGroups : List Group} {leftTests rightTests : List TestCase} :
    alike ⟨leftName, leftTags, leftGroups, leftTests⟩
        ⟨rightName, rightTags, rightGroups, rightTests⟩ = true ↔
      leftName = rightName ∧ leftTags.sameTags rightTags = true ∧
        List.Forall₂ (fun leftGroup rightGroup => leftGroup.alike rightGroup = true)
          leftGroups rightGroups ∧
        List.Forall₂ (fun leftTest rightTest => leftTest.alike rightTest = true)
          leftTests rightTests :=
  alike_iff

theorem isEmpty_eq_of_alike {left right : Group} (same : left.alike right = true) :
    left.isEmpty = right.isEmpty := by
  obtain ⟨_, _, groups, tests⟩ := alike_iff.1 same
  rw [isEmpty, isEmpty, Bool.eq_iff_iff, Bool.and_eq_true, Bool.and_eq_true]
  simp only [List.isEmpty_iff_length_eq_zero, groups.length_eq, tests.length_eq]

theorem forall₂_map_of_mem {α β γ δ : Type} {related : α → β → Prop}
    {mapped : γ → δ → Prop} {first : α → γ} {second : β → δ} {left : List α}
    {right : List β} (correspond : List.Forall₂ related left right)
    (carried : ∀ item ∈ left, ∀ other, related item other →
      mapped (first item) (second other)) :
    List.Forall₂ mapped (left.map first) (right.map second) := by
  induction correspond with
  | nil => exact List.Forall₂.nil
  | cons atFirst _ inductionHypothesis =>
      refine List.Forall₂.cons (carried _ List.mem_cons_self _ atFirst) ?_
      exact inductionHypothesis fun item member =>
        carried item (List.mem_cons_of_mem _ member)

/-- Two decisions about tags that agree on sets with the same tags. -/
def AgreeUpToOrder (wanted otherWanted : TagSet → Bool) : Prop :=
  ∀ tags otherTags : TagSet,
    tags.sameTags otherTags = true → wanted tags = otherWanted otherTags

theorem keepTests_alike {wanted otherWanted : TagSet → Bool}
    (agree : AgreeUpToOrder wanted otherWanted) {left right : Group}
    (same : left.alike right = true) {inherited otherInherited : TagSet}
    (sameInherited : inherited.sameTags otherInherited = true) :
    (left.keepTests wanted inherited).alike
      (right.keepTests otherWanted otherInherited) = true := by
  induction left using Group.induction generalizing right inherited otherInherited with
  | group name tags groups tests inductionHypothesis =>
      obtain ⟨otherName, otherTags, otherGroups, otherTests⟩ := right
      obtain ⟨sameName, sameTags, sameGroups, sameTests⟩ := alike_group_iff.1 same
      have sameBelow := TagSet.sameTags_union sameInherited sameTags
      rw [keepTests_group, keepTests_group, alike_group_iff]
      refine ⟨sameName, sameTags, ?_, ?_⟩
      · exact forall₂_map_of_mem sameGroups fun child member other alike =>
          inductionHypothesis child member alike sameBelow
      · refine List.rel_filter ?_ sameTests
        intro test otherTest alike
        obtain ⟨_, ownTags, _⟩ := TestCase.alike_iff.1 alike
        -- The effective tags differ in their order only, which the decision does not see.
        have sameDecision := agree _ _ (TagSet.sameTags_union sameBelow ownTags)
        exact iff_of_eq (congrArg (· = true) sameDecision)

theorem prune_alike {left right : Group} (same : left.alike right = true) :
    left.prune.alike right.prune = true := by
  induction left using Group.induction generalizing right with
  | group name tags groups tests inductionHypothesis =>
      obtain ⟨otherName, otherTags, otherGroups, otherTests⟩ := right
      obtain ⟨sameName, sameTags, sameGroups, sameTests⟩ := alike_group_iff.1 same
      rw [prune_group, prune_group, alike_group_iff]
      refine ⟨sameName, sameTags, ?_, sameTests⟩
      have pruned :
          List.Forall₂ (fun child other => child.alike other = true) (groups.map prune)
            (otherGroups.map prune) :=
        forall₂_map_of_mem sameGroups fun child member _ alike =>
          inductionHypothesis child member alike
      refine List.rel_filter ?_ pruned
      intro child other alike
      have sameEmptiness := congrArg (!·) (isEmpty_eq_of_alike alike)
      exact iff_of_eq (congrArg (· = true) sameEmptiness)

end Group

/-- The entries are those of the same test at the same place, up to the order of tags. -/
structure PlacedTest.Alike (left right : PlacedTest) : Prop where
  path_eq : left.path = right.path
  test_alike : left.test.alike right.test = true
  sameTags : left.tags.sameTags right.tags = true

namespace Group

theorem placedTestsFrom_alike {left right : Group} (same : left.alike right = true)
    {inherited otherInherited : TagSet}
    (sameInherited : inherited.sameTags otherInherited = true) (path : List String) :
    List.Forall₂ PlacedTest.Alike (placedTestsFrom inherited path left)
      (placedTestsFrom otherInherited path right) := by
  induction left using Group.induction
    generalizing right inherited otherInherited path with
  | group name tags groups tests inductionHypothesis =>
      obtain ⟨otherName, otherTags, otherGroups, otherTests⟩ := right
      obtain ⟨sameName, sameTags, sameGroups, sameTests⟩ := alike_group_iff.1 same
      have sameBelow := TagSet.sameTags_union sameInherited sameTags
      rw [placedTestsFrom_group, placedTestsFrom_group, sameName]
      refine List.rel_append ?_ ?_
      · refine forall₂_map_of_mem sameTests fun test _ otherTest alike => ?_
        obtain ⟨_, ownTags, _⟩ := TestCase.alike_iff.1 alike
        exact ⟨rfl, alike, TagSet.sameTags_union sameBelow ownTags⟩
      · refine List.rel_flatten ?_
        exact forall₂_map_of_mem sameGroups fun child member other alike =>
          inductionHypothesis child member alike sameBelow _

theorem placedTests_alike {left right : Group} (same : left.alike right = true) :
    List.Forall₂ PlacedTest.Alike left.placedTests right.placedTests :=
  placedTestsFrom_alike same (TagSet.sameTags_refl ∅) []

end Group

end TagSelection
