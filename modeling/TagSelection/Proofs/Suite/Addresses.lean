import Mathlib.Data.List.Forall2
import TagSelection.Proofs.Suite.Entries
import TagSelection.Proofs.TagSet.FirstOccurrence

/-!
# Tests by their addresses

An address says how to come to a test: which child group to enter, from the root on,
and which test of the last group to take.  The list of all tests of a suite goes through
the addresses in order, each once, a group's own tests before those of its child groups.
The entry of a test is made of nothing but the groups on the way to it: their names are
its path, and their tags, outermost first, and the test's own are its effective tags.
-/

namespace TagSelection

structure Address where
  /-- The positions of the child groups to enter, from the root on. -/
  descent : List Nat
  /-- The position of the test among the tests of the last group. -/
  position : Nat
  deriving DecidableEq

namespace Address

/-- The address of a test of a child group, seen from the group around it. -/
def enter (index : Nat) (address : Address) : Address :=
  { address with descent := index :: address.descent }

theorem enter_inj {index other : Nat} {inner otherInner : Address} :
    enter index inner = enter other otherInner ↔ index = other ∧ inner = otherInner := by
  cases inner
  cases otherInner
  simp [enter, and_assoc]

/-- The order in which a suite is walked: the own tests of a group come before those of
the groups inside it, and siblings come in their order. -/
inductive Before : Address → Address → Prop
  | own {descent : List Nat} {position later : Nat} :
      position < later →
      Before ⟨descent, position⟩ ⟨descent, later⟩
  | inside {descent further : List Nat} {index position inner : Nat} :
      Before ⟨descent, position⟩ ⟨descent ++ index :: further, inner⟩
  | sibling {descent left right : List Nat} {index later leftPosition rightPosition : Nat} :
      index < later →
      Before ⟨descent ++ index :: left, leftPosition⟩ ⟨descent ++ later :: right, rightPosition⟩

theorem Before.enter {first second : Address} (before : first.Before second)
    (index : Nat) : (first.enter index).Before (second.enter index) := by
  cases before with
  | own smaller => exact Before.own smaller
  | @inside descent => exact @Before.inside (index :: descent) _ _ _ _
  | @sibling descent _ _ _ _ _ _ smaller =>
      exact @Before.sibling (index :: descent) _ _ _ _ _ _ smaller

theorem Before.ne {first second : Address} (before : first.Before second) :
    first ≠ second := by
  cases before with
  | own smaller => simp [Nat.ne_of_lt smaller]
  | inside => simp
  | sibling smaller => simp [Nat.ne_of_lt smaller]

end Address

namespace Group

def follow? (group : Group) (position : Nat) :
    (descent : List Nat) → Option (List Group × TestCase)
  | [] => (group.tests[position]?).map fun test => ([group], test)
  | index :: descent => do
      let child ← group.groups[index]?
      let (route, test) ← child.follow? position descent
      some (group :: route, test)

/-- The groups on the way to the test at an address, and the test. -/
def testAt? (suite : Group) (address : Address) : Option (List Group × TestCase) :=
  suite.follow? address.position address.descent

mutual

def addresses : Group → List Address
  | ⟨_, _, groups, tests⟩ =>
      (List.range tests.length).map (Address.mk []) ++ addressesOfAll 0 groups

/-- The addresses of the tests of sibling groups, seen from the group around them; the
first sibling has the given position. -/
def addressesOfAll (index : Nat) : List Group → List Address
  | [] => []
  | group :: rest =>
      (addresses group).map (Address.enter index) ++ addressesOfAll (index + 1) rest

end

theorem testAt?_own (group : Group) (position : Nat) :
    group.testAt? ⟨[], position⟩ =
      (group.tests[position]?).map fun test => ([group], test) := rfl

theorem testAt?_enter (group : Group) (index : Nat) (address : Address) :
    group.testAt? (address.enter index) = (do
      let child ← group.groups[index]?
      let (route, test) ← child.testAt? address
      some (group :: route, test)) := rfl

theorem testAt?_enter_eq_some_iff {group : Group} {index : Nat} {address : Address}
    {route : List Group} {test : TestCase} :
    group.testAt? (address.enter index) = some (route, test) ↔
      ∃ child inner, group.groups[index]? = some child ∧
        child.testAt? address = some (inner, test) ∧ route = group :: inner := by
  rw [testAt?_enter]
  constructor
  · intro followed
    obtain ⟨child, isChild, followed⟩ := Option.bind_eq_some_iff.1 followed
    obtain ⟨⟨inner, last⟩, isInner, followed⟩ := Option.bind_eq_some_iff.1 followed
    cases followed
    exact ⟨child, inner, isChild, isInner, rfl⟩
  · rintro ⟨child, inner, isChild, isInner, rfl⟩
    simp [isChild, isInner]

theorem mem_addressesOfAll {start : Nat} {groups : List Group} {address : Address} :
    address ∈ addressesOfAll start groups ↔
      ∃ (index : Nat) (child : Group), groups[index]? = some child ∧
        ∃ inner ∈ child.addresses, Address.enter (start + index) inner = address := by
  induction groups generalizing start with
  | nil => simp [addressesOfAll]
  | cons group rest inductionHypothesis =>
      rw [addressesOfAll, List.mem_append, List.mem_map, inductionHypothesis]
      constructor
      · rintro (⟨inner, among, rfl⟩ | ⟨index, child, isChild, inner, among, rfl⟩)
        · exact ⟨0, group, rfl, inner, among, rfl⟩
        · refine ⟨index + 1, child, isChild, inner, among, ?_⟩
          rw [Nat.add_right_comm, Nat.add_assoc]
      · rintro ⟨index, child, isChild, inner, among, rfl⟩
        cases index with
        | zero =>
            cases isChild
            exact Or.inl ⟨inner, among, rfl⟩
        | succ index =>
            refine Or.inr ⟨index, child, isChild, inner, among, ?_⟩
            rw [Nat.add_right_comm, Nat.add_assoc]

theorem enter_mem_addressesOfAll {groups : List Group} {index : Nat} {address : Address} :
    address.enter index ∈ addressesOfAll 0 groups ↔
      ∃ child : Group, groups[index]? = some child ∧ address ∈ child.addresses := by
  rw [mem_addressesOfAll]
  constructor
  · rintro ⟨other, child, isChild, inner, among, same⟩
    rw [Nat.zero_add, Address.enter_inj] at same
    obtain ⟨rfl, rfl⟩ := same
    exact ⟨child, isChild, among⟩
  · rintro ⟨child, isChild, among⟩
    exact ⟨index, child, isChild, address, among, by rw [Nat.zero_add]⟩

/-- An address is listed exactly if it leads to a test. -/
theorem mem_addresses_iff (suite : Group) (address : Address) :
    address ∈ suite.addresses ↔ ∃ route test, suite.testAt? address = some (route, test) := by
  induction suite using Group.induction generalizing address with
  | group name tags groups tests inductionHypothesis =>
      obtain ⟨descent, position⟩ := address
      cases descent with
      | nil =>
          simp [addresses, testAt?_own, mem_addressesOfAll, Address.enter,
            List.getElem?_eq_some_iff]
      | cons index descent =>
          change Address.enter index ⟨descent, position⟩ ∈ _ ↔
            ∃ route test, testAt? _ (Address.enter index ⟨descent, position⟩) = _
          -- An address with a descent is none of the own tests of the group.
          have notOwn :
              Address.enter index ⟨descent, position⟩ ∉
                (List.range tests.length).map (Address.mk []) := by
            simp [Address.enter]
          rw [addresses, List.mem_append, enter_mem_addressesOfAll]
          simp only [testAt?_enter_eq_some_iff, notOwn, false_or]
          constructor
          · rintro ⟨child, isChild, among⟩
            obtain ⟨route, test, found⟩ :=
              (inductionHypothesis child (List.mem_of_getElem? isChild) _).1 among
            exact ⟨_, test, child, route, isChild, found, rfl⟩
          · rintro ⟨_, test, child, route, isChild, found, rfl⟩
            have among :=
              (inductionHypothesis child (List.mem_of_getElem? isChild) _).2
                ⟨route, test, found⟩
            exact ⟨child, isChild, among⟩

theorem addressesOfAll_pairwise_before {start : Nat} {groups : List Group}
    (each : ∀ child ∈ groups, child.addresses.Pairwise Address.Before) :
    (addressesOfAll start groups).Pairwise Address.Before := by
  induction groups generalizing start with
  | nil => exact List.Pairwise.nil
  | cons group rest inductionHypothesis =>
      rw [addressesOfAll, List.pairwise_append]
      refine ⟨?_, ?_, ?_⟩
      · have inGroup := each group List.mem_cons_self
        exact inGroup.map _ fun first second before => before.enter start
      · exact inductionHypothesis fun child member => each child (List.mem_cons_of_mem _ member)
      · intro first isFirst second isSecond
        obtain ⟨inner, _, rfl⟩ := List.mem_map.1 isFirst
        obtain ⟨index, child, _, other, _, rfl⟩ := mem_addressesOfAll.1 isSecond
        have smaller : start < start + 1 + index := by omega
        exact @Address.Before.sibling [] _ _ _ _ _ _ smaller

theorem addresses_pairwise_before (suite : Group) :
    suite.addresses.Pairwise Address.Before := by
  induction suite using Group.induction with
  | group name tags groups tests inductionHypothesis =>
      rw [addresses, List.pairwise_append]
      refine ⟨?_, addressesOfAll_pairwise_before inductionHypothesis, ?_⟩
      · exact List.pairwise_lt_range.map _ fun first second smaller =>
          Address.Before.own smaller
      · intro own isOwn inside isInside
        obtain ⟨position, _, rfl⟩ := List.mem_map.1 isOwn
        obtain ⟨index, child, _, inner, _, rfl⟩ := mem_addressesOfAll.1 isInside
        exact @Address.Before.inside [] _ _ _ _

/-! ## The entry at an address -/

/-- The entry is that of the test at an address below a group: to the path and the tags
from outside the group come the names and the tags of the groups on the way. -/
def IsEntryBelow (outer : List Tag) (path : List String) (group : Group)
    (address : Address) (entry : PlacedTest) : Prop :=
  ∃ route, group.testAt? address = some (route, entry.test) ∧
    entry.path = path ++ route.map Group.name ∧
    entry.tags =
      .ofList (outer ++ route.flatMap (fun group => group.tags.toList) ++
        entry.test.tags.toList)

theorem IsEntryBelow.enter {outer : List Tag} {path : List String} {group child : Group}
    {index : Nat} {address : Address} {entry : PlacedTest}
    (isChild : group.groups[index]? = some child)
    (isEntry :
      IsEntryBelow (outer ++ group.tags.toList) (path ++ [group.name]) child address entry) :
    IsEntryBelow outer path group (address.enter index) entry := by
  obtain ⟨route, found, isPath, isTags⟩ := isEntry
  have foundBelow := testAt?_enter_eq_some_iff.2 ⟨child, route, isChild, found, rfl⟩
  refine ⟨group :: route, foundBelow, ?_, ?_⟩
  · simp [isPath]
  · simp [isTags]

theorem ownPlacedTests_isEntryBelow (outer : List Tag) (path : List String)
    (group : Group) :
    List.Forall₂ (IsEntryBelow outer path group)
      ((List.range group.tests.length).map (Address.mk []))
      (ownPlacedTests (.ofList outer ∪ group.tags) (path ++ [group.name]) group.tests) := by
  rw [ownPlacedTests, List.forall₂_map_left_iff, List.forall₂_map_right_iff,
    List.forall₂_iff_get]
  refine ⟨List.length_range, fun position _ inRange => ?_⟩
  refine ⟨[group], ?_, ?_, ?_⟩
  · simp [testAt?_own]
  · simp
  · simp [TagSet.ofList_union]

theorem forall₂_addressesOfAll {relation : Address → PlacedTest → Prop}
    {entries : Group → List PlacedTest} {start : Nat} {groups : List Group}
    (each : ∀ (index : Nat) (child : Group), groups[index]? = some child →
      List.Forall₂ (fun address entry => relation (address.enter (start + index)) entry)
        child.addresses (entries child)) :
    List.Forall₂ relation (addressesOfAll start groups) (groups.flatMap entries) := by
  induction groups generalizing start with
  | nil => exact List.Forall₂.nil
  | cons group rest inductionHypothesis =>
      rw [addressesOfAll, List.flatMap_cons]
      refine List.rel_append ?_ ?_
      · rw [List.forall₂_map_left_iff]
        exact each 0 group rfl
      · apply inductionHypothesis
        intro index child isChild
        have next := each (index + 1) child isChild
        rwa [← Nat.add_assoc, Nat.add_right_comm] at next

theorem placedTestsFrom_isEntryBelow (suite : Group) (outer : List Tag)
    (path : List String) :
    List.Forall₂ (IsEntryBelow outer path suite) suite.addresses
      (placedTestsFrom (.ofList outer) path suite) := by
  induction suite using Group.induction generalizing outer path with
  | group name tags groups tests inductionHypothesis =>
      rw [addresses, placedTestsFrom_group]
      refine List.rel_append
        (ownPlacedTests_isEntryBelow outer path ⟨name, tags, groups, tests⟩) ?_
      apply forall₂_addressesOfAll
      intro index child isChild
      rw [TagSet.ofList_union, Nat.zero_add]
      have below :=
        inductionHypothesis child (List.mem_of_getElem? isChild) (outer ++ tags.toList)
          (path ++ [name])
      exact below.imp fun address entry isEntry => IsEntryBelow.enter isChild isEntry

/-- The entry is made of the groups on a route from the root: of their names, and of
their tags and those of the test, with the later duplicates removed. -/
structure IsEntryOn (route : List Group) (entry : PlacedTest) : Prop where
  path_eq : entry.path = route.map Group.name
  tags_eq : entry.tags.toList =
    (route.flatMap (fun group => group.tags.toList) ++ entry.test.tags.toList).eraseDups
  mem_tags_iff : ∀ tag,
    tag ∈ entry.tags ↔ (∃ group ∈ route, tag ∈ group.tags) ∨ tag ∈ entry.test.tags

theorem IsEntryBelow.onRoute {suite : Group} {address : Address} {entry : PlacedTest}
    (isEntry : IsEntryBelow [] [] suite address entry) :
    ∃ route, suite.testAt? address = some (route, entry.test) ∧ IsEntryOn route entry := by
  obtain ⟨route, found, isPath, isTags⟩ := isEntry
  refine ⟨route, found, isPath, ?_, ?_⟩
  · rw [isTags, TagSet.toList_ofList, List.nil_append]
  · intro tag
    rw [isTags, TagSet.mem_ofList]
    simp [TagSet.mem_iff]

/-- The list of all tests goes through the addresses of the suite in the order of the
walk, each once, and every entry is made of the groups on the way to its test alone. -/
theorem placedTests_go_through_addresses (suite : Group) :
    suite.addresses.Nodup ∧ suite.addresses.Pairwise Address.Before ∧
      (∀ address, address ∈ suite.addresses ↔
        ∃ route test, suite.testAt? address = some (route, test)) ∧
      List.Forall₂
        (fun address entry =>
          ∃ route, suite.testAt? address = some (route, entry.test) ∧ IsEntryOn route entry)
        suite.addresses suite.placedTests ∧
      suite.placedTests.length = suite.size := by
  have ordered := addresses_pairwise_before suite
  have entries := placedTestsFrom_isEntryBelow suite [] []
  refine ⟨ordered.imp Address.Before.ne, ordered, mem_addresses_iff suite, ?_,
    length_placedTests suite⟩
  exact entries.imp fun address entry isEntry => isEntry.onRoute

end Group

end TagSelection
