import Mathlib.Data.List.Basic
import TagSelection.Proofs.Suite.Addresses
import TagSelection.Proofs.TagSet.Union

/-!
# Levels of nested groups in another grouping

The groups around a test are levels of tags, the outermost first, and the test's own tags
are the last level.  The effective tags are the union of the levels, which can be bracketed
in any way.  So the levels of a suite can be regrouped: nested groups become one group,
or child groups leave their group and take its tags with them.  The tests stay in their
order and have the same effective tags in the same order.
-/

namespace TagSelection

def PlacedTest.tagged (entry : PlacedTest) : TestCase × TagSet := (entry.test, entry.tags)

namespace Group

/-- The group with the tags of a level around it in front of its own. -/
def under (outer : TagSet) (group : Group) : Group :=
  { group with tags := outer ∪ group.tags }

/-- Sibling groups that come from others by regrouping levels of tags, here or further
inside.  The names of the groups may change with the levels, the tests stay. -/
inductive Regrouped : List Group → List Group → Prop
  /-- The child groups leave their group and take its tags with them. -/
  | lift (name : String) (tags : TagSet) (groups : List Group) (tests : List TestCase) :
      Regrouped [⟨name, tags, groups, tests⟩]
        (⟨name, tags, [], tests⟩ :: groups.map (under tags))
  /-- A group without members is dropped. -/
  | vacant (name : String) (tags : TagSet) : Regrouped [⟨name, tags, [], []⟩] []
  | inside (name other : String) (tags : TagSet) (tests : List TestCase)
      {groups others : List Group} :
      Regrouped groups others →
      Regrouped [⟨name, tags, groups, tests⟩] [⟨other, tags, others, tests⟩]
  | beside {before otherBefore after otherAfter : List Group} :
      Regrouped before otherBefore →
      Regrouped after otherAfter →
      Regrouped (before ++ after) (otherBefore ++ otherAfter)
  | refl (groups : List Group) : Regrouped groups groups
  | symm {groups others : List Group} : Regrouped groups others → Regrouped others groups
  | trans {groups middle others : List Group} :
      Regrouped groups middle → Regrouped middle others → Regrouped groups others

/-- A group that has nothing but one group in it is one level with it. -/
theorem Regrouped.join (outer inner joined : String) (outerTags innerTags : TagSet)
    (groups : List Group) (tests : List TestCase) :
    Regrouped [⟨outer, outerTags, [⟨inner, innerTags, groups, tests⟩], []⟩]
      [⟨joined, outerTags ∪ innerTags, groups, tests⟩] := by
  let single : Group := ⟨inner, outerTags ∪ innerTags, groups, tests⟩
  have lifted :
      Regrouped [⟨outer, outerTags, [⟨inner, innerTags, groups, tests⟩], []⟩]
        ([⟨outer, outerTags, [], []⟩] ++ [single]) :=
    lift outer outerTags [⟨inner, innerTags, groups, tests⟩] []
  have dropped : Regrouped ([⟨outer, outerTags, [], []⟩] ++ [single]) ([] ++ [single]) :=
    beside (vacant outer outerTags) (refl [single])
  have renamed : Regrouped [single] [⟨joined, outerTags ∪ innerTags, groups, tests⟩] :=
    inside inner joined (outerTags ∪ innerTags) tests (refl groups)
  exact (lifted.trans dropped).trans renamed

theorem map_tagged_ownPlacedTests (inherited : TagSet) (path : List String)
    (tests : List TestCase) :
    (ownPlacedTests inherited path tests).map PlacedTest.tagged =
      tests.map fun test => (test, inherited ∪ test.tags) := by
  rw [ownPlacedTests, List.map_map]
  rfl

theorem map_tagged_placedTestsFrom (suite : Group) (inherited : TagSet)
    (path otherPath : List String) :
    (placedTestsFrom inherited path suite).map PlacedTest.tagged =
      (placedTestsFrom inherited otherPath suite).map PlacedTest.tagged := by
  induction suite using Group.induction generalizing inherited path otherPath with
  | group name tags groups tests inductionHypothesis =>
      simp only [placedTestsFrom_group, List.map_append, map_tagged_ownPlacedTests,
        List.map_flatMap]
      congr 1
      exact List.flatMap_congr fun child member =>
        inductionHypothesis child member (inherited ∪ tags) _ _

/-- The tests below sibling groups that inherit tags, with their effective tags. -/
def taggedTests (inherited : TagSet) (groups : List Group) : List (TestCase × TagSet) :=
  groups.flatMap fun group => (placedTestsFrom inherited [] group).map PlacedTest.tagged

theorem taggedTests_append (inherited : TagSet) (before after : List Group) :
    taggedTests inherited (before ++ after) =
      taggedTests inherited before ++ taggedTests inherited after :=
  List.flatMap_append

theorem taggedTests_group (inherited : TagSet) (name : String) (tags : TagSet)
    (groups : List Group) (tests : List TestCase) :
    taggedTests inherited [⟨name, tags, groups, tests⟩] =
      tests.map (fun test => (test, inherited ∪ tags ∪ test.tags)) ++
        taggedTests (inherited ∪ tags) groups := by
  rw [taggedTests, List.flatMap_singleton, placedTestsFrom_group, List.map_append,
    map_tagged_ownPlacedTests, List.map_flatMap]
  congr 1
  exact List.flatMap_congr fun child _ =>
    map_tagged_placedTestsFrom child (inherited ∪ tags) _ []

theorem placedTestsFrom_under (inherited outer : TagSet) (path : List String)
    (group : Group) :
    placedTestsFrom inherited path (group.under outer) =
      placedTestsFrom (inherited ∪ outer) path group := by
  obtain ⟨name, tags, groups, tests⟩ := group
  rw [under, placedTestsFrom_group, placedTestsFrom_group, TagSet.union_assoc]

/-- Groups that take the tags of a level with them inherit nothing more from it. -/
theorem taggedTests_under (inherited outer : TagSet) (groups : List Group) :
    taggedTests inherited (groups.map (under outer)) =
      taggedTests (inherited ∪ outer) groups := by
  rw [taggedTests, List.flatMap_map]
  simp only [placedTestsFrom_under]
  rfl

/-- Whatever tags they inherit, regrouped levels have the same tests in the same order,
with the same effective tags. -/
theorem Regrouped.taggedTests_eq {groups others : List Group}
    (regrouped : Regrouped groups others) (inherited : TagSet) :
    taggedTests inherited groups = taggedTests inherited others := by
  induction regrouped generalizing inherited with
  | lift name tags groups tests =>
      -- The group keeps its own tests, and they stay in front of those that leave it.
      have left :
          taggedTests inherited [⟨name, tags, [], tests⟩] =
            tests.map fun test => (test, inherited ∪ tags ∪ test.tags) := by
        rw [taggedTests_group]
        exact List.append_nil _
      have apart := taggedTests_append inherited [⟨name, tags, [], tests⟩]
        (groups.map (under tags))
      rw [List.singleton_append] at apart
      rw [taggedTests_group, apart, left, taggedTests_under]
  | vacant name tags => rfl
  | inside name other tags tests _ inductionHypothesis =>
      rw [taggedTests_group, taggedTests_group, inductionHypothesis]
  | beside _ _ beforeHypothesis afterHypothesis =>
      rw [taggedTests_append, taggedTests_append, beforeHypothesis, afterHypothesis]
  | refl groups => rfl
  | symm _ inductionHypothesis => rw [inductionHypothesis]
  | trans _ _ firstHypothesis secondHypothesis => rw [firstHypothesis, secondHypothesis]

theorem map_tagged_placedTests (suite : Group) :
    suite.placedTests.map PlacedTest.tagged = taggedTests ∅ [suite] := by
  rw [taggedTests, List.flatMap_singleton, placedTests]

def levelsInside (route : List Group) (test : TestCase) : List TagSet :=
  route.map Group.tags ++ [test.tags]

/-- The tags of the entry are the union of the levels around its test, however that union is
bracketed. -/
def IsUnionOfLevels (suite : Group) (address : Address) (entry : PlacedTest) : Prop :=
  ∃ route, suite.testAt? address = some (route, entry.test) ∧
    ∀ bracketing : TagSet.Bracketing, bracketing.levels = levelsInside route entry.test →
      bracketing.tags = entry.tags

theorem IsEntryBelow.isUnionOfLevels {suite : Group} {address : Address}
    {entry : PlacedTest} (isEntry : IsEntryBelow [] [] suite address entry) :
    IsUnionOfLevels suite address entry := by
  obtain ⟨route, found, _, isTags⟩ := isEntry
  refine ⟨route, found, ?_⟩
  intro bracketing isLevels
  rw [isTags, bracketing.tags_eq_ofList, isLevels, levelsInside]
  simp [List.flatMap_map]

/-- Tag sets with their unions are a monoid that keeps the order of tags: a union starts with
its first set, has every tag once and absorbs what it has already.  So the effective tags of
a test are the union of the levels around it in any brackets, and regrouping the levels of
nested groups changes neither the effective tags of a test nor their order. -/
theorem inheritance_regardless_of_grouping :
    (∀ first second third : TagSet,
      first ∪ second ∪ third = first ∪ (second ∪ third) ∧
        ∅ ∪ first = first ∧ first ∪ ∅ = first ∧
        first.toList <+: (first ∪ second).toList ∧
        (first ∪ second).toList =
          first.toList ++ second.toList.filter (fun tag => tag ∉ first) ∧
        (∀ tag, (first ∪ second).toList.count tag =
          if tag ∈ first ∨ tag ∈ second then 1 else 0) ∧
        (first ∪ second ∪ third = first ∪ second ↔
          ∀ tag ∈ third, tag ∈ first ∨ tag ∈ second)) ∧
      (∀ suite : Group,
        List.Forall₂ (IsUnionOfLevels suite) suite.addresses suite.placedTests) ∧
      ∀ suite other : Group, Regrouped [suite] [other] →
        suite.placedTests.map PlacedTest.tagged = other.placedTests.map PlacedTest.tagged := by
  refine ⟨?_, ?_, ?_⟩
  · intro first second third
    refine ⟨TagSet.union_assoc first second third, TagSet.empty_union first,
      TagSet.union_empty first, TagSet.prefix_union first second,
      TagSet.toList_union first second, TagSet.count_union first second, ?_⟩
    rw [TagSet.union_eq_left_iff]
    simp only [TagSet.mem_union]
  · intro suite
    exact (placedTestsFrom_isEntryBelow suite [] []).imp fun address entry isEntry =>
      isEntry.isUnionOfLevels
  · intro suite other regrouped
    rw [map_tagged_placedTests, map_tagged_placedTests]
    exact regrouped.taggedTests_eq ∅

theorem inheritance_regardless_of_grouping_three_levels :
    let api : TagSet := .ofList ["api", "slow"]
    let disk : TagSet := .ofList ["slow", "disk"]
    let unit : TagSet := .ofList ["unit", "api", "disk"]
    let repeated : TagSet := .ofList ["disk", "api"]
    let sync : TestCase := ⟨"sync", .ofList ["fast", "slow"], true⟩
    let tests : List TestCase := [sync, ⟨"flush", ∅, false⟩]
    let write : Group := ⟨"write", unit, [], tests⟩
    let storage : Group := ⟨"storage", disk, [write], []⟩
    let suite : Group := ⟨"all", api, [storage], []⟩
    let outerJoined : Group := ⟨"all storage", api ∪ disk, [write], []⟩
    let innerJoined : Group := ⟨"all", api, [⟨"storage write", disk ∪ unit, [], tests⟩], []⟩
    let bracketing : TagSet.Bracketing :=
      .joined (.level api) (.joined (.joined (.level disk) (.level unit)) (.level sync.tags))
    (∀ tag ∈ repeated, tag ∈ api ∨ tag ∈ disk) ∧ api ∪ disk ∪ repeated = api ∪ disk ∧
      bracketing.levels = levelsInside [suite, storage, write] sync ∧
      bracketing.tags = .ofList ["api", "slow", "disk", "unit", "fast"] ∧
      Regrouped [outerJoined] [innerJoined] ∧
      outerJoined.placedTests.map PlacedTest.tagged =
        innerJoined.placedTests.map PlacedTest.tagged ∧
      innerJoined.placedTests.map (fun entry => entry.tags.toList) =
        [["api", "slow", "disk", "unit", "fast"], ["api", "slow", "disk", "unit"]] := by
  intro api disk unit repeated sync tests write storage suite outerJoined innerJoined
    bracketing
  obtain ⟨laws, levels, regroups⟩ := inheritance_regardless_of_grouping
  have known : ∀ tag ∈ repeated, tag ∈ api ∨ tag ∈ disk := by decide
  have absorbed := (laws api disk repeated).2.2.2.2.2.2.2 known
  have isLevels : bracketing.levels = levelsInside [suite, storage, write] sync := rfl
  let inLevels : TagSet := .ofList ["api", "slow", "disk", "unit"]
  have addressed : suite.addresses = [⟨[0, 0], 0⟩, ⟨[0, 0], 1⟩] := by decide
  have listed :
      suite.placedTests =
        [⟨["all", "storage", "write"], sync, inLevels.insert "fast"⟩,
          ⟨["all", "storage", "write"], ⟨"flush", ∅, false⟩, inLevels⟩] := by
    decide
  have unions := levels suite
  rw [addressed, listed, List.forall₂_cons] at unions
  obtain ⟨⟨route, found, inBrackets⟩, _⟩ := unions
  cases found
  have outer : Regrouped [suite] [outerJoined] := .join _ _ _ _ _ _ _
  have inner : Regrouped [suite] [innerJoined] := .inside _ _ _ _ (.join _ _ _ _ _ _ _)
  have regrouped := outer.symm.trans inner
  exact ⟨known, absorbed, isLevels, inBrackets bracketing isLevels, regrouped,
    regroups _ _ regrouped, by decide⟩

end Group

end TagSelection
