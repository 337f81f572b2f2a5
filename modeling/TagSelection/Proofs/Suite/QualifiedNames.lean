import Mathlib.Data.List.Nodup
import TagSelection.Proofs.Suite.Entries

/-!
# Qualified names

The qualified name of a test is made of its path and its own name with `::` between them;
only a path that is one empty name is left out.  Names without a colon can be told apart
in such a text, and all paths of a suite begin with the same name.  So the qualified name
determines the path and the name of the test, and it belongs to one test alone if siblings
have different names.
-/

namespace TagSelection

/-- The name has no colon, so it cannot be taken for several names. -/
def IsPlainName (name : String) : Prop := ':' ∉ name.toList

instance (name : String) : Decidable (IsPlainName name) :=
  inferInstanceAs (Decidable (':' ∉ name.toList))

theorem append_colon_inj {first second rest others : List Char} (plainFirst : ':' ∉ first)
    (plainSecond : ':' ∉ second) (same : first ++ ':' :: rest = second ++ ':' :: others) :
    first = second ∧ rest = others := by
  -- If one name were longer, the first colon behind the other would stand in it.
  rcases List.append_eq_append_iff.1 same with
    ⟨between, isSecond, isRest⟩ | ⟨between, isFirst, isOthers⟩
  · cases between with
    | nil =>
        rw [List.append_nil] at isSecond
        exact ⟨isSecond.symm, (List.cons.inj isRest).2⟩
    | cons c tail =>
        obtain ⟨rfl, _⟩ := List.cons.inj isRest
        exact absurd (by simp [isSecond]) plainSecond
  · cases between with
    | nil =>
        rw [List.append_nil] at isFirst
        exact ⟨isFirst, (List.cons.inj isOthers).2.symm⟩
    | cons c tail =>
        obtain ⟨rfl, _⟩ := List.cons.inj isOthers
        exact absurd (by simp [isFirst]) plainFirst

theorem not_isPlainName_joined {before after : List String} (someBefore : before ≠ [])
    (someAfter : after ≠ []) : ¬ IsPlainName ("::".intercalate (before ++ after)) := by
  intro plain
  rw [IsPlainName, String.intercalate_append_of_ne_nil someBefore someAfter] at plain
  simp at plain

/-- Plain names are told apart by the separators between them. -/
theorem joined_inj {first second : List String} (someFirst : first ≠ [])
    (someSecond : second ≠ []) (plainFirst : ∀ name ∈ first, IsPlainName name)
    (plainSecond : ∀ name ∈ second, IsPlainName name)
    (same : "::".intercalate first = "::".intercalate second) : first = second := by
  induction first generalizing second with
  | nil => exact absurd rfl someFirst
  | cons name rest inductionHypothesis =>
      cases second with
      | nil => exact absurd rfl someSecond
      | cons other others =>
          obtain ⟨plainName, plainRest⟩ := List.forall_mem_cons.1 plainFirst
          obtain ⟨plainOther, plainOthers⟩ := List.forall_mem_cons.1 plainSecond
          -- A single plain name is no joined text of several names, because those have a
          -- colon between them.
          by_cases noRest : rest = []
          · by_cases noOthers : others = []
            · rw [noRest, noOthers] at same ⊢
              rw [String.intercalate_singleton, String.intercalate_singleton] at same
              rw [same]
            · rw [noRest, String.intercalate_singleton] at same
              rw [same] at plainName
              have several := not_isPlainName_joined (List.cons_ne_nil other []) noOthers
              exact absurd plainName several
          · by_cases noOthers : others = []
            · rw [noOthers, String.intercalate_singleton] at same
              rw [← same] at plainOther
              have several := not_isPlainName_joined (List.cons_ne_nil name []) noRest
              exact absurd plainOther several
            · rw [String.intercalate_cons_of_ne_nil noRest,
                String.intercalate_cons_of_ne_nil noOthers] at same
              have sameCharacters :
                  name.toList ++ ':' :: ':' :: ("::".intercalate rest).toList =
                    other.toList ++ ':' :: ':' :: ("::".intercalate others).toList := by
                simpa using congrArg String.toList same
              obtain ⟨sameName, sameTail⟩ :=
                append_colon_inj plainName plainOther sameCharacters
              have sameRest : "::".intercalate rest = "::".intercalate others :=
                String.toList_inj.1 (List.cons.inj sameTail).2
              rw [String.toList_inj.1 sameName,
                inductionHypothesis noRest noOthers plainRest plainOthers sameRest]

theorem joined_eq_empty_iff (root : String) (inner : List String) :
    "::".intercalate (root :: inner) = "" ↔ root = "" ∧ inner = [] := by
  cases inner with
  | nil => simp
  | cons next more => simp

namespace PlacedTest

def place (entry : PlacedTest) : List String × String := (entry.path, entry.test.name)

theorem qualifiedName_below (entry : PlacedTest) {root : String} {inner : List String}
    (isPath : entry.path = root :: inner) :
    entry.qualifiedName =
      if root = "" ∧ inner = [] then entry.test.name
      else "::".intercalate (entry.path ++ [entry.test.name]) := by
  have someName : entry.path ≠ [] := by simp [isPath]
  rw [qualifiedName, String.intercalate_append_of_ne_nil someName (List.cons_ne_nil _ []),
    String.intercalate_singleton, isPath]
  simp only [joined_eq_empty_iff]

/-- Below one root, plain names make different qualified names at different places. -/
theorem place_of_qualifiedName {first second : PlacedTest} {root : String}
    {inner others : List String} (isPath : first.path = root :: inner)
    (isOther : second.path = root :: others)
    (plainFirst : ∀ name ∈ first.path ++ [first.test.name], IsPlainName name)
    (plainSecond : ∀ name ∈ second.path ++ [second.test.name], IsPlainName name)
    (same : first.qualifiedName = second.qualifiedName) :
    first.path = second.path ∧ first.test.name = second.test.name := by
  have someFirst : first.path ≠ [] := by simp [isPath]
  have someSecond : second.path ≠ [] := by simp [isOther]
  have severalFirst := not_isPlainName_joined someFirst (List.cons_ne_nil first.test.name [])
  have severalSecond :=
    not_isPlainName_joined someSecond (List.cons_ne_nil second.test.name [])
  rw [qualifiedName_below first isPath, qualifiedName_below second isOther] at same
  -- Only the bare path is left out of the qualified name, which is then plain; with a path
  -- in front it is not.
  by_cases bareFirst : root = "" ∧ inner = []
  · by_cases bareSecond : root = "" ∧ others = []
    · rw [if_pos bareFirst, if_pos bareSecond] at same
      rw [isPath, isOther, bareFirst.2, bareSecond.2]
      exact ⟨rfl, same⟩
    · rw [if_pos bareFirst, if_neg bareSecond] at same
      have plainName := plainFirst first.test.name (by simp)
      rw [same] at plainName
      exact absurd plainName severalSecond
  · by_cases bareSecond : root = "" ∧ others = []
    · rw [if_neg bareFirst, if_pos bareSecond] at same
      have plainName := plainSecond second.test.name (by simp)
      rw [← same] at plainName
      exact absurd plainName severalFirst
    · rw [if_neg bareFirst, if_neg bareSecond] at same
      have sameNames := joined_inj (by simp) (by simp) plainFirst plainSecond same
      obtain ⟨samePath, sameLast⟩ := List.append_inj' sameNames rfl
      exact ⟨samePath, List.singleton_inj.1 sameLast⟩

end PlacedTest

namespace Group

/-! ## The names in a suite -/

mutual

def groupsWithin : Group → List Group
  | ⟨name, tags, groups, tests⟩ => ⟨name, tags, groups, tests⟩ :: groupsWithinAll groups

def groupsWithinAll : List Group → List Group
  | [] => []
  | group :: rest => groupsWithin group ++ groupsWithinAll rest

end

def HasPlainNames (suite : Group) : Prop :=
  ∀ group ∈ suite.groupsWithin,
    IsPlainName group.name ∧ ∀ test ∈ group.tests, IsPlainName test.name

instance (suite : Group) : Decidable suite.HasPlainNames :=
  inferInstanceAs (Decidable (∀ group ∈ suite.groupsWithin,
    IsPlainName group.name ∧ ∀ test ∈ group.tests, IsPlainName test.name))

/-- Wherever in the suite, sibling groups have different names, and so have the tests of
one group. -/
def HasDistinctNames (suite : Group) : Prop :=
  ∀ group ∈ suite.groupsWithin,
    (group.groups.map Group.name).Nodup ∧ (group.tests.map TestCase.name).Nodup

instance (suite : Group) : Decidable suite.HasDistinctNames :=
  inferInstanceAs (Decidable (∀ group ∈ suite.groupsWithin,
    (group.groups.map Group.name).Nodup ∧ (group.tests.map TestCase.name).Nodup))

theorem groupsWithinAll_eq_flatMap (groups : List Group) :
    groupsWithinAll groups = groups.flatMap groupsWithin := by
  induction groups with
  | nil => rfl
  | cons group rest inductionHypothesis =>
      simp [groupsWithinAll, inductionHypothesis]

/-- What holds of all groups within a group holds of itself and within its children. -/
theorem forall_groupsWithin_iff {holds : Group → Prop} {name : String} {tags : TagSet}
    {groups : List Group} {tests : List TestCase} :
    (∀ group ∈ groupsWithin ⟨name, tags, groups, tests⟩, holds group) ↔
      holds ⟨name, tags, groups, tests⟩ ∧
        ∀ child ∈ groups, ∀ group ∈ child.groupsWithin, holds group := by
  rw [groupsWithin, groupsWithinAll_eq_flatMap, List.forall_mem_cons]
  refine and_congr_right fun _ => ?_
  constructor
  · intro all child isChild group within
    exact all group (List.mem_flatMap.2 ⟨child, isChild, within⟩)
  · intro all group within
    obtain ⟨child, isChild, withinChild⟩ := List.mem_flatMap.1 within
    exact all child isChild group withinChild

theorem exists_path_of_mem {suite : Group} {inherited : TagSet} {path : List String}
    {entry : PlacedTest} (member : entry ∈ placedTestsFrom inherited path suite) :
    ∃ inner, entry.path = path ++ suite.name :: inner := by
  induction suite using Group.induction generalizing inherited path with
  | group name tags groups tests inductionHypothesis =>
      rw [placedTestsFrom_group, List.mem_append] at member
      rcases member with own | below
      · obtain ⟨test, _, rfl⟩ := List.mem_map.1 own
        exact ⟨[], rfl⟩
      · obtain ⟨child, isChild, inChild⟩ := List.mem_flatMap.1 below
        obtain ⟨inner, isPath⟩ := inductionHypothesis child isChild inChild
        exact ⟨child.name :: inner, by simp [isPath]⟩

theorem HasPlainNames.of_mem {suite : Group} (plain : suite.HasPlainNames)
    {inherited : TagSet} {path : List String} (plainPath : ∀ name ∈ path, IsPlainName name)
    {entry : PlacedTest} (member : entry ∈ placedTestsFrom inherited path suite) :
    ∀ name ∈ entry.path ++ [entry.test.name], IsPlainName name := by
  induction suite using Group.induction generalizing inherited path with
  | group name tags groups tests inductionHypothesis =>
      obtain ⟨⟨plainName, plainTests⟩, plainChildren⟩ := forall_groupsWithin_iff.1 plain
      have plainHere : ∀ part ∈ path ++ [name], IsPlainName part :=
        List.forall_mem_append.2 ⟨plainPath, List.forall_mem_singleton.2 plainName⟩
      rw [placedTestsFrom_group, List.mem_append] at member
      rcases member with own | below
      · obtain ⟨test, isTest, rfl⟩ := List.mem_map.1 own
        have plainTest := plainTests test isTest
        exact List.forall_mem_append.2 ⟨plainHere, List.forall_mem_singleton.2 plainTest⟩
      · obtain ⟨child, isChild, inChild⟩ := List.mem_flatMap.1 below
        exact inductionHypothesis child isChild (plainChildren child isChild) plainHere inChild

theorem exists_path_of_mem_places {suite : Group} {inherited : TagSet} {path : List String}
    {place : List String × String}
    (member : place ∈ (placedTestsFrom inherited path suite).map PlacedTest.place) :
    ∃ inner, place.1 = path ++ suite.name :: inner := by
  obtain ⟨entry, isEntry, rfl⟩ := List.mem_map.1 member
  exact exists_path_of_mem isEntry

theorem places_disjoint {group other : Group} (differ : group.name ≠ other.name)
    (inherited : TagSet) (path : List String) :
    List.Disjoint ((placedTestsFrom inherited path group).map PlacedTest.place)
      ((placedTestsFrom inherited path other).map PlacedTest.place) := by
  intro place inGroup inOther
  obtain ⟨inner, isPath⟩ := exists_path_of_mem_places inGroup
  obtain ⟨otherInner, isOtherPath⟩ := exists_path_of_mem_places inOther
  rw [isPath] at isOtherPath
  have sameNames := List.append_cancel_left isOtherPath
  exact differ (List.cons.inj sameNames).1

/-- In a suite with distinct names no two tests have the same path and the same name. -/
theorem HasDistinctNames.places_nodup {suite : Group} (distinct : suite.HasDistinctNames)
    (inherited : TagSet) (path : List String) :
    ((placedTestsFrom inherited path suite).map PlacedTest.place).Nodup := by
  induction suite using Group.induction generalizing inherited path with
  | group name tags groups tests inductionHypothesis =>
      obtain ⟨⟨groupNames, testNames⟩, distinctChildren⟩ := forall_groupsWithin_iff.1 distinct
      have own :
          ((ownPlacedTests (inherited ∪ tags) (path ++ [name]) tests).map
            PlacedTest.place).Nodup := by
        -- The own tests of a group have one path, so their names must differ.
        have samePath : Function.Injective (Prod.mk (path ++ [name]) : String → _) :=
          fun first second same => (Prod.mk.inj same).2
        simpa [ownPlacedTests, PlacedTest.place, Function.comp_def] using
          testNames.map samePath
      rw [placedTestsFrom_group, List.map_append, List.map_flatMap, List.nodup_append]
      refine ⟨own, ?_, ?_⟩
      · rw [List.nodup_flatMap]
        constructor
        · intro child isChild
          exact inductionHypothesis child isChild (distinctChildren child isChild) _ _
        · have namesDiffer := List.pairwise_map.1 groupNames
          exact namesDiffer.imp fun differ => places_disjoint differ _ _
      · -- The paths of the group's own tests are shorter than those below it.
        intro place isOwn other isBelow samePlace
        obtain ⟨entry, isEntry, rfl⟩ := List.mem_map.1 isOwn
        obtain ⟨test, _, rfl⟩ := List.mem_map.1 isEntry
        obtain ⟨child, _, inChild⟩ := List.mem_flatMap.1 isBelow
        obtain ⟨inner, isPath⟩ := exists_path_of_mem_places inChild
        rw [← samePlace, PlacedTest.place] at isPath
        simp at isPath

/-- In a suite with plain names the qualified name tells the path and the name of a test;
if its siblings have different names, no other test has the same qualified name. -/
theorem qualified_names_tell_tests_apart (suite : Group) (plain : suite.HasPlainNames) :
    (∀ first ∈ suite.placedTests, ∀ second ∈ suite.placedTests,
        first.qualifiedName = second.qualifiedName ↔
          first.path = second.path ∧ first.test.name = second.test.name) ∧
      (suite.HasDistinctNames →
        (suite.placedTests.map PlacedTest.qualifiedName).Nodup) := by
  have sameName_iff :
      ∀ first ∈ suite.placedTests, ∀ second ∈ suite.placedTests,
        first.qualifiedName = second.qualifiedName ↔
          first.path = second.path ∧ first.test.name = second.test.name := by
    intro first isFirst second isSecond
    constructor
    · obtain ⟨inner, isPath⟩ := exists_path_of_mem isFirst
      obtain ⟨others, isOther⟩ := exists_path_of_mem isSecond
      have plainFirst := plain.of_mem (List.forall_mem_nil _) isFirst
      have plainSecond := plain.of_mem (List.forall_mem_nil _) isSecond
      exact PlacedTest.place_of_qualifiedName isPath isOther plainFirst plainSecond
    · rintro ⟨samePath, sameTest⟩
      rw [PlacedTest.qualifiedName, PlacedTest.qualifiedName, samePath, sameTest]
  refine ⟨sameName_iff, ?_⟩
  intro distinct
  have places := List.pairwise_map.1 (distinct.places_nodup ∅ [])
  apply List.pairwise_map.2
  refine places.imp_of_mem ?_
  intro first second isFirst isSecond differ same
  obtain ⟨samePath, sameTest⟩ := (sameName_iff first isFirst second isSecond).1 same
  exact differ (by rw [PlacedTest.place, PlacedTest.place, samePath, sameTest])

theorem qualified_names_tell_tests_apart_empty_names :
    let inner : Group := { name := "", tests := [{ name := "t" }, { name := "" }] }
    let suite : Group :=
      { name := ""
        tests := [{ name := "t" }, { name := "" }]
        groups := [inner, { name := "a", groups := [inner], tests := [{ name := "t" }] }] }
    let names := suite.placedTests.map PlacedTest.qualifiedName
    suite.HasPlainNames ∧ suite.HasDistinctNames ∧
      names = ["t", "", "::::t", "::::", "::a::t", "::a::::t", "::a::::"] ∧ names.Nodup ∧
      ∀ entry ∈ suite.placedTests, entry.qualifiedName = "t" → entry.path = [""] := by
  intro inner suite names
  have plain : suite.HasPlainNames := by decide
  have distinct : suite.HasDistinctNames := by decide
  have ofRoot : (⟨[""], { name := "t" }, ∅⟩ : PlacedTest) ∈ suite.placedTests := by decide
  obtain ⟨sameName_iff, nodup⟩ := qualified_names_tell_tests_apart suite plain
  refine ⟨plain, distinct, by decide, nodup distinct, ?_⟩
  intro entry member isName
  exact ((sameName_iff entry member _ ofRoot).1 isName).1

end Group

end TagSelection
