import TagSelection.TagSet

/-!
# Test suites

A suite is a tree: a group has a name, tags, child groups and tests.  Suites are
plain values; selecting tests never changes a suite, it gives a new one.
-/

namespace TagSelection

structure TestCase where
  name : String
  tags : TagSet := ∅
  /-- Whether the test is marked as ignored; the mark is carried along untouched. -/
  ignored : Bool := false
  deriving DecidableEq

/-- A group of tests and of further groups. -/
structure Group where
  name : String
  tags : TagSet := ∅
  groups : List Group := []
  tests : List TestCase := []
  deriving Inhabited

namespace TestCase

def addTags (test : TestCase) (tags : List Tag) : TestCase :=
  { test with tags := test.tags.extend tags }

/-- Whether two tests are the same up to the order of their tags. -/
def alike (left right : TestCase) : Bool :=
  left.name == right.name && left.tags.sameTags right.tags && left.ignored == right.ignored

def allAlike : (left right : List TestCase) → Bool
  | [], [] => true
  | leftTest :: leftRest, rightTest :: rightRest =>
      leftTest.alike rightTest && allAlike leftRest rightRest
  | _, _ => false

end TestCase

namespace Group

def addTags (group : Group) (tags : List Tag) : Group :=
  { group with tags := group.tags.extend tags }

def addGroup (group child : Group) : Group :=
  { group with groups := group.groups ++ [child] }

def addTest (group : Group) (test : TestCase) : Group :=
  { group with tests := group.tests ++ [test] }

def withMembers (group : Group) (groups : List Group) (tests : List TestCase) : Group :=
  { group with groups, tests }

def isEmpty (group : Group) : Bool := group.groups.isEmpty && group.tests.isEmpty

/-- A suite inside groups of one name; the tags of the group with `index` groups
below it are given by `tags index`. -/
def nest (group : Group) (name : String) (tags : Nat → List Tag) : Nat → Group
  | 0 => group
  | count + 1 =>
      { name, tags := .ofList (tags count), groups := [group.nest name tags count] }

mutual

/-- The number of tests in the group and everywhere below it. -/
def size : Group → Nat
  | ⟨_, _, groups, tests⟩ => tests.length + sizeOfAll groups

def sizeOfAll : List Group → Nat
  | [] => 0
  | group :: rest => size group + sizeOfAll rest

end

mutual

/-- Whether two suites are the same up to the order of tags. -/
def alike : (left right : Group) → Bool
  | ⟨leftName, leftTags, leftGroups, leftTests⟩,
    ⟨rightName, rightTags, rightGroups, rightTests⟩ =>
      leftName == rightName && leftTags.sameTags rightTags &&
        allAlike leftGroups rightGroups && TestCase.allAlike leftTests rightTests

def allAlike : (left right : List Group) → Bool
  | [], [] => true
  | leftGroup :: leftRest, rightGroup :: rightRest =>
      alike leftGroup rightGroup && allAlike leftRest rightRest
  | _, _ => false

end

mutual

def decEq : (left right : Group) → Decidable (left = right)
  | ⟨leftName, leftTags, leftGroups, leftTests⟩,
    ⟨rightName, rightTags, rightGroups, rightTests⟩ =>
      if own : leftName = rightName ∧ leftTags = rightTags ∧ leftTests = rightTests then
        match decEqAll leftGroups rightGroups with
        | isTrue equality => isTrue (by rw [own.1, own.2.1, own.2.2, equality])
        | isFalse different => isFalse (by simp [different])
      else
        isFalse fun equality => own (by simp_all)

def decEqAll : (left right : List Group) → Decidable (left = right)
  | [], [] => isTrue rfl
  | leftHead :: leftTail, rightHead :: rightTail =>
      match decEq leftHead rightHead, decEqAll leftTail rightTail with
      | isTrue headEquality, isTrue tailEquality =>
          isTrue (by rw [headEquality, tailEquality])
      | isFalse different, _ => isFalse (by simp [different])
      | _, isFalse different => isFalse (by simp [different])
  | [], _ :: _ => isFalse (by simp)
  | _ :: _, [] => isFalse (by simp)

end

instance : DecidableEq Group := decEq

end Group

end TagSelection
