import TagSelection.Proofs.Condition.Leaves
import TagSelection.Proofs.Selection.Positions
import TagSelection.Proofs.Selection.Skeleton
import TagSelection.Proofs.Selection.TagOrder

/-!
# The tags that a condition mentions

A condition sees nothing of a set of tags but the tags that it mentions itself.  So all
other tags may be taken away from every group and from every test of a suite: its filter
keeps the tests at the same positions.

What carries this to suites is that taking tags away goes together with inheriting them:
the effective tags of a test that was left with some tags are what is left of its effective
tags.
-/

namespace TagSelection

def TagSet.restrict (tags mentioned : TagSet) : TagSet where
  toList := tags.toList.filter (· ∈ mentioned)
  nodup := tags.nodup.filter _

def TestCase.restrictTags (test : TestCase) (mentioned : TagSet) : TestCase :=
  { test with tags := test.tags.restrict mentioned }

namespace Group

mutual

/-- The suite without the tags that are not mentioned, in every group and every test. -/
def restrictTags (mentioned : TagSet) : Group → Group
  | ⟨name, tags, groups, tests⟩ =>
      ⟨name, tags.restrict mentioned, restrictTagsOfAll mentioned groups,
        tests.map (·.restrictTags mentioned)⟩

def restrictTagsOfAll (mentioned : TagSet) : List Group → List Group
  | [] => []
  | group :: rest => restrictTags mentioned group :: restrictTagsOfAll mentioned rest

end

theorem restrictTagsOfAll_eq_map (mentioned : TagSet) (groups : List Group) :
    restrictTagsOfAll mentioned groups = groups.map (restrictTags mentioned) := by
  induction groups with
  | nil => rfl
  | cons group rest inductionHypothesis => rw [restrictTagsOfAll, inductionHypothesis]; rfl

end Group

def PlacedTest.restrictTags (entry : PlacedTest) (mentioned : TagSet) : PlacedTest where
  path := entry.path
  test := entry.test.restrictTags mentioned
  tags := entry.tags.restrict mentioned

namespace TagSet

variable {mentioned : TagSet}

theorem mem_restrict (tags : TagSet) (tag : Tag) :
    tag ∈ tags.restrict mentioned ↔ tag ∈ tags ∧ tag ∈ mentioned := by
  simp [mem_iff, restrict]

theorem restrict_insert (tags : TagSet) (tag : Tag) :
    (tags.insert tag).restrict mentioned =
      if tag ∈ mentioned then (tags.restrict mentioned).insert tag
      else tags.restrict mentioned := by
  apply TagSet.ext
  have restricted : ∀ other : TagSet,
      (other.restrict mentioned).toList = other.toList.filter (· ∈ mentioned) :=
    fun _ => rfl
  by_cases isMentioned : tag ∈ mentioned
  · rw [if_pos isMentioned, toList_insert, restricted, restricted, toList_insert]
    by_cases present : tag ∈ tags.toList
    · simp [present, isMentioned]
    · simp [present, isMentioned]
  · rw [if_neg isMentioned, restricted, restricted, toList_insert]
    by_cases present : tag ∈ tags.toList
    · simp [present]
    · simp [present, isMentioned]

theorem restrict_extend (tags : TagSet) (added : List Tag) :
    (tags.extend added).restrict mentioned =
      (tags.restrict mentioned).extend (added.filter (· ∈ mentioned)) := by
  induction added generalizing tags with
  | nil => rfl
  | cons tag added inductionHypothesis =>
      rw [extend_cons, inductionHypothesis, restrict_insert]
      by_cases isMentioned : tag ∈ mentioned
      · simp [isMentioned]
      · simp [isMentioned]

theorem restrict_union (inherited own : TagSet) :
    (inherited ∪ own).restrict mentioned =
      inherited.restrict mentioned ∪ own.restrict mentioned :=
  restrict_extend inherited own.toList

end TagSet

namespace Group

variable {mentioned : TagSet}

theorem restrictTags_group (name : String) (tags : TagSet) (groups : List Group)
    (tests : List TestCase) :
    restrictTags mentioned ⟨name, tags, groups, tests⟩ =
      ⟨name, tags.restrict mentioned, groups.map (restrictTags mentioned),
        tests.map (·.restrictTags mentioned)⟩ := by
  rw [restrictTags, restrictTagsOfAll_eq_map]

theorem ownPlacedTests_restrictTags (inherited : TagSet) (path : List String)
    (tests : List TestCase) :
    ownPlacedTests (inherited.restrict mentioned) path
        (tests.map (·.restrictTags mentioned)) =
      (ownPlacedTests inherited path tests).map (·.restrictTags mentioned) := by
  rw [ownPlacedTests, ownPlacedTests, List.map_map, List.map_map]
  refine List.map_congr_left fun test _ => ?_
  simp only [Function.comp, TestCase.restrictTags, PlacedTest.restrictTags,
    TagSet.restrict_union]

/-- The entries of a suite with fewer tags are those of the suite with fewer tags. -/
theorem placedTestsFrom_restrictTags (suite : Group) (inherited : TagSet)
    (path : List String) :
    placedTestsFrom (inherited.restrict mentioned) path (suite.restrictTags mentioned) =
      (placedTestsFrom inherited path suite).map (·.restrictTags mentioned) := by
  induction suite using Group.induction generalizing inherited path with
  | group name tags groups tests inductionHypothesis =>
      rw [restrictTags_group, placedTestsFrom_group, placedTestsFrom_group, List.map_append,
        ← TagSet.restrict_union, ownPlacedTests_restrictTags, List.flatMap_map,
        List.map_flatMap]
      congr 1
      exact List.flatMap_congr fun child among =>
        inductionHypothesis child among (inherited ∪ tags) (path ++ [name])

theorem placedTests_restrictTags (suite : Group) :
    (suite.restrictTags mentioned).placedTests =
      suite.placedTests.map (·.restrictTags mentioned) :=
  placedTestsFrom_restrictTags suite ∅ []

/-- A pass that sees mentioned tags alone may be made before or after the other tags are
taken away. -/
theorem keepTests_restrictTags {wanted : TagSet → Bool}
    (blind : ∀ tags : TagSet, wanted (tags.restrict mentioned) = wanted tags)
    (suite : Group) (inherited : TagSet) :
    (suite.restrictTags mentioned).keepTests wanted (inherited.restrict mentioned) =
      (suite.keepTests wanted inherited).restrictTags mentioned := by
  induction suite using Group.induction generalizing inherited with
  | group name tags groups tests inductionHypothesis =>
      have sameTests :
          (tests.map (·.restrictTags mentioned)).filter (fun test =>
              wanted (inherited.restrict mentioned ∪ tags.restrict mentioned ∪ test.tags)) =
            (tests.filter fun test => wanted (inherited ∪ tags ∪ test.tags)).map
              (·.restrictTags mentioned) := by
        -- A test is judged by its effective tags, and taking tags away goes through their
        -- union.
        rw [List.filter_map]
        congr 1
        refine List.filter_congr fun test _ => ?_
        simp only [Function.comp, TestCase.restrictTags, ← TagSet.restrict_union, blind]
      rw [restrictTags_group, keepTests_group, keepTests_group, restrictTags_group, sameTests,
        List.map_map, List.map_map, ← TagSet.restrict_union]
      congr 1
      exact List.map_congr_left fun child among =>
        inductionHypothesis child among (inherited ∪ tags)

end Group

namespace Condition

/-- A condition sees nothing of a set but which of the tags that it mentions are in it. -/
theorem holds_of_mentioned {condition : Condition} {tags others : TagSet}
    (agree : ∀ tag ∈ condition.tags, tag ∈ tags ↔ tag ∈ others) :
    condition.holds tags = condition.holds others :=
  holds_congr fun tag isLeaf => agree tag ((condition.mem_tags tag).2 isLeaf)

theorem holds_restrict (condition : Condition) (tags : TagSet) :
    condition.holds (tags.restrict condition.tags) = condition.holds tags := by
  apply holds_of_mentioned
  intro tag isMentioned
  rw [TagSet.mem_restrict]
  exact and_iff_left isMentioned

/-- The positions of the tests of a suite that the filter of the condition keeps, read off
the suite that it gives. -/
def keptPositions (condition : Condition) (suite : Group) : Finset Nat :=
  (suite.positionsOf fun entry =>
    entry ∈ (TestFilter.select condition suite).suite.placedTests).image Fin.val

theorem mem_keptPositions (condition : Condition) (suite : Group) (position : Nat) :
    position ∈ condition.keptPositions suite ↔
      ∃ entry, suite.placedTests[position]? = some entry ∧
        condition.holds entry.tags = true := by
  have kept := TestFilter.placedTests_select condition.honest suite
  rw [keptPositions, kept, Finset.mem_image]
  constructor
  · rintro ⟨place, isKept, rfl⟩
    rw [Group.mem_positionsOf, decide_eq_true_eq, List.mem_filter] at isKept
    exact ⟨_, List.getElem?_eq_getElem place.isLt, isKept.2⟩
  · rintro ⟨entry, isEntry, holds⟩
    obtain ⟨inRange, rfl⟩ := List.getElem?_eq_some_iff.1 isEntry
    refine ⟨⟨position, inRange⟩, ?_, rfl⟩
    rw [Group.mem_positionsOf, decide_eq_true_eq, List.mem_filter]
    exact ⟨List.getElem_mem inRange, holds⟩

theorem keptPositions_restrictTags (condition : Condition) (suite : Group) :
    condition.keptPositions (suite.restrictTags condition.tags) =
      condition.keptPositions suite := by
  ext position
  rw [mem_keptPositions, mem_keptPositions, Group.placedTests_restrictTags,
    List.getElem?_map]
  constructor
  · rintro ⟨entry, isEntry, holds⟩
    obtain ⟨original, isOriginal, rfl⟩ := Option.map_eq_some_iff.1 isEntry
    exact ⟨original, isOriginal, (condition.holds_restrict original.tags).symm.trans holds⟩
  · rintro ⟨original, isOriginal, holds⟩
    rw [isOriginal]
    exact ⟨_, rfl, (condition.holds_restrict original.tags).trans holds⟩

theorem select_restrictTags (condition : Condition) (suite : Group) :
    (TestFilter.select condition (suite.restrictTags condition.tags)).suite =
      (TestFilter.select condition suite).suite.restrictTags condition.tags := by
  rw [TestFilter.suite_select condition.honest, TestFilter.suite_select condition.honest]
  exact Group.keepTests_restrictTags condition.holds_restrict suite ∅

/-- A condition mentions the tags of its leaves, from left to right and each once; of an
expression these are the tags that it writes.  Nothing else of a set of tags matters to the
condition, so that a suite without all other tags has its tests kept at the same
positions. -/
theorem only_mentioned_tags_matter (condition : Condition) :
    InOrder condition.LeafAt condition.leaves ∧
      condition.tags.toList = condition.leaves.eraseDups ∧
      (∀ expression, Expression.parse expression = .ok condition →
        condition.tags.toList = (Expression.writtenTags expression.toList).eraseDups) ∧
      (∀ tags others : TagSet,
        (∀ tag ∈ condition.tags, tag ∈ tags ↔ tag ∈ others) →
          condition.holds tags = condition.holds others) ∧
      ∀ suite : Group,
        condition.keptPositions (suite.restrictTags condition.tags) =
            condition.keptPositions suite ∧
          (TestFilter.select condition (suite.restrictTags condition.tags)).suite =
            (TestFilter.select condition suite).suite.restrictTags condition.tags := by
  refine ⟨condition.inOrder_leaves, condition.toList_tags, ?_,
    fun _ _ agree => holds_of_mentioned agree,
    fun suite => ⟨condition.keptPositions_restrictTags suite,
      condition.select_restrictTags suite⟩⟩
  intro expression parsed
  rw [condition.toList_tags, Expression.leaves_of_parse parsed]

theorem only_mentioned_tags_matter_nested :
    let condition : Condition :=
      .and [.has "unit", .not (some (.or [.has "slow", .has "fast", .has "slow"]))]
    let suite : Group :=
      ⟨"all", .ofList ["api", "unit"],
        [⟨"io", .ofList ["slow", "disk"], [], [⟨"read", ∅, true⟩]⟩],
        [⟨"trim", .ofList ["api"], false⟩]⟩
    let bare : Group :=
      ⟨"all", .ofList ["unit"], [⟨"io", .ofList ["slow"], [], [⟨"read", ∅, true⟩]⟩],
        [⟨"trim", ∅, false⟩]⟩
    Expression.parse "And(unit; not(or(slow,fast,slow)))" = .ok condition ∧
      condition.tags.toList = ["unit", "slow", "fast"] ∧
      (∀ tag ∈ condition.tags.toList,
        tag ∈ TagSet.ofList ["api", "unit"] ↔ tag ∈ TagSet.ofList ["unit", "disk"]) ∧
      condition.holds (.ofList ["api", "unit"]) = condition.holds (.ofList ["unit", "disk"]) ∧
      suite.restrictTags condition.tags = bare ∧
      condition.keptPositions bare = condition.keptPositions suite ∧
      condition.keptPositions suite = {0} := by
  intro condition suite bare
  have parsed :
      Expression.parse "And(unit; not(or(slow,fast,slow)))" = .ok condition := by
    decide
  have agree : ∀ tag ∈ condition.tags.toList,
      tag ∈ TagSet.ofList ["api", "unit"] ↔ tag ∈ TagSet.ofList ["unit", "disk"] := by
    decide
  have isBare : suite.restrictTags condition.tags = bare := by decide
  obtain ⟨_, _, written, sees, keeps⟩ := only_mentioned_tags_matter condition
  have tags := written _ parsed
  have samePositions := (keeps suite).1
  rw [isBare] at samePositions
  exact ⟨parsed, tags.trans (by decide), agree, sees _ _ agree, isBare, samePositions,
    by decide +kernel⟩

end Condition

end TagSelection
