import Mathlib.Data.List.Basic
import TagSelection.Proofs.Suite.Descents
import TagSelection.Proofs.Suite.Passes

/-!
# The groups that pruning leaves

Pruning looks at a child group after everything empty has gone from below it.  What it
finds then depends on the suite as it was: the child is empty exactly if no test stood
in it or anywhere below it.  So pruning drops the groups without tests and those alone.
Each of the others keeps its name, its tags and its own tests, and it comes to stand
behind those of its earlier siblings that have tests, too.
-/

namespace TagSelection.Group

/-- A test stands in the group or somewhere below it. -/
def HasTests (group : Group) : Prop :=
  ∃ descent below, group.groupAt? descent = some below ∧ below.tests ≠ []

theorem hasTests_group_iff {name : String} {tags : TagSet} {groups : List Group}
    {tests : List TestCase} :
    HasTests ⟨name, tags, groups, tests⟩ ↔
      tests ≠ [] ∨ ∃ child ∈ groups, child.HasTests := by
  constructor
  · rintro ⟨descent, below, reached, someTest⟩
    cases descent with
    | nil =>
        cases reached
        exact Or.inl someTest
    | cons index descent =>
        obtain ⟨child, isChild, reached⟩ := groupAt?_cons_eq_some_iff.1 reached
        have member : child ∈ groups := List.mem_of_getElem? isChild
        exact Or.inr ⟨child, member, descent, below, reached, someTest⟩
  · rintro (someTest | ⟨child, member, descent, below, reached, someTest⟩)
    · exact ⟨[], _, rfl, someTest⟩
    · obtain ⟨index, isChild⟩ := List.mem_iff_getElem?.1 member
      have fromHere :
          groupAt? ⟨name, tags, groups, tests⟩ (index :: descent) = some below :=
        groupAt?_cons_eq_some_iff.2 ⟨child, isChild, reached⟩
      exact ⟨index :: descent, below, fromHere, someTest⟩

theorem sizeOfAll_eq_zero_iff {groups : List Group} :
    sizeOfAll groups = 0 ↔ ∀ child ∈ groups, child.size = 0 := by
  induction groups with
  | nil => simp [sizeOfAll]
  | cons group rest inductionHypothesis =>
      rw [sizeOfAll, Nat.add_eq_zero_iff, inductionHypothesis, List.forall_mem_cons]

theorem hasTests_iff_size (suite : Group) : suite.HasTests ↔ suite.size ≠ 0 := by
  induction suite using Group.induction with
  | group name tags groups tests inductionHypothesis =>
      have below :
          (∃ child ∈ groups, child.HasTests) ↔ ∃ child ∈ groups, child.size ≠ 0 :=
        exists_congr fun child => and_congr_right (inductionHypothesis child)
      rw [hasTests_group_iff, below, size, Nat.ne_zero_iff_zero_lt, Nat.add_pos_iff_pos_or_pos,
        List.length_pos_iff, ← Nat.ne_zero_iff_zero_lt, ne_eq (sizeOfAll groups),
        sizeOfAll_eq_zero_iff]
      simp only [ne_eq, not_forall, exists_prop]

instance (group : Group) : Decidable group.HasTests :=
  decidable_of_iff (group.size ≠ 0) (hasTests_iff_size group).symm

theorem isEmpty_prune_iff (suite : Group) :
    suite.prune.isEmpty = true ↔ ¬ suite.HasTests := by
  induction suite using Group.induction with
  | group name tags groups tests inductionHypothesis =>
      -- A child is dropped for what is left of it, which the hypothesis ties to its tests.
      have dropped :
          (groups.map prune).filter (!·.isEmpty) = [] ↔
            ∀ child ∈ groups, ¬ child.HasTests := by
        rw [List.filter_eq_nil_iff, List.forall_mem_map]
        refine forall₂_congr fun child member => ?_
        rw [← inductionHypothesis child member]
        simp
      rw [prune_group, isEmpty, Bool.and_eq_true, List.isEmpty_iff, List.isEmpty_iff,
        dropped, hasTests_group_iff]
      simp [and_comm]

theorem groups_prune (suite : Group) :
    suite.prune.groups = (suite.groups.filter (·.HasTests)).map prune := by
  obtain ⟨name, tags, groups, tests⟩ := suite
  have sameChoice : (fun child : Group => !child.prune.isEmpty) = (·.HasTests) := by
    funext child
    rw [Bool.eq_iff_iff, Bool.not_eq_true', ← Bool.not_eq_true, isEmpty_prune_iff]
    simp
  rw [prune_group, List.filter_map]
  change ((groups.filter fun child => !child.prune.isEmpty).map prune) = _
  rw [sameChoice]

/-- An item that a filter leaves stands behind as many items as the filter has left of
those before it. -/
theorem getElem?_filter_eq_some_iff {α : Type} {wanted : α → Bool} {items : List α}
    {place : Nat} {item : α} :
    (items.filter wanted)[place]? = some item ↔
      ∃ index, items[index]? = some item ∧ wanted item = true ∧
        (items.take index).countP wanted = place := by
  induction items generalizing place with
  | nil => simp
  | cons first rest inductionHypothesis =>
      -- The first item shifts all places by one if it is wanted, and none otherwise.
      cases chosen : wanted first with
      | true =>
          rw [List.filter_cons_of_pos chosen]
          constructor
          · intro found
            cases place with
            | zero =>
                cases found
                exact ⟨0, rfl, chosen, rfl⟩
            | succ place =>
                obtain ⟨index, isItem, isWanted, count⟩ := inductionHypothesis.1 found
                refine ⟨index + 1, isItem, isWanted, ?_⟩
                rw [List.take_succ_cons, List.countP_cons_of_pos chosen, count]
          · rintro ⟨index, isItem, isWanted, rfl⟩
            cases index with
            | zero => simpa using isItem
            | succ index =>
                rw [List.take_succ_cons, List.countP_cons_of_pos chosen,
                  List.getElem?_cons_succ]
                exact inductionHypothesis.2 ⟨index, isItem, isWanted, rfl⟩
      | false =>
          have notChosen : ¬ wanted first = true := by simp [chosen]
          rw [List.filter_cons_of_neg notChosen, inductionHypothesis]
          constructor
          · rintro ⟨index, isItem, isWanted, rfl⟩
            refine ⟨index + 1, isItem, isWanted, ?_⟩
            rw [List.take_succ_cons, List.countP_cons_of_neg notChosen]
          · rintro ⟨index, isItem, isWanted, rfl⟩
            cases index with
            | zero =>
                cases isItem
                exact absurd isWanted notChosen
            | succ index =>
                refine ⟨index, isItem, isWanted, ?_⟩
                rw [List.take_succ_cons, List.countP_cons_of_neg notChosen]

/-- The position that a child group has among those of its siblings that have tests. -/
def slot (suite : Group) (index : Nat) : Nat :=
  (suite.groups.take index).countP (·.HasTests)

theorem slot_lt_of_hasTests {suite child : Group} {index later : Nat}
    (isChild : suite.groups[index]? = some child) (hasTests : child.HasTests)
    (before : index < later) : suite.slot index < suite.slot later := by
  obtain ⟨inRange, isChild⟩ := List.getElem?_eq_some_iff.1 isChild
  have further :
      suite.slot (index + 1) = suite.slot index + 1 := by
    rw [slot, List.take_succ_eq_append_getElem inRange, isChild, List.countP_append]
    simp [slot, hasTests]
  have included : suite.slot (index + 1) ≤ suite.slot later := by
    have isPrefix : suite.groups.take (index + 1) <+: suite.groups.take later :=
      List.take_prefix_take_left before
    exact isPrefix.sublist.countP_le
  omega

theorem index_eq_of_slot_eq {suite child other : Group} {index otherIndex : Nat}
    (isChild : suite.groups[index]? = some child) (hasTests : child.HasTests)
    (isOther : suite.groups[otherIndex]? = some other) (otherHasTests : other.HasTests)
    (sameSlot : suite.slot index = suite.slot otherIndex) : index = otherIndex := by
  rcases Nat.lt_trichotomy index otherIndex with before | same | behind
  · have smaller := slot_lt_of_hasTests isChild hasTests before
    omega
  · exact same
  · have smaller := slot_lt_of_hasTests isOther otherHasTests behind
    omega

theorem groups_prune_getElem?_eq_some_iff {suite pruned : Group} {place : Nat} :
    suite.prune.groups[place]? = some pruned ↔
      ∃ index child, suite.groups[index]? = some child ∧ child.HasTests ∧
        suite.slot index = place ∧ pruned = child.prune := by
  rw [groups_prune, List.getElem?_map, Option.map_eq_some_iff]
  simp only [getElem?_filter_eq_some_iff, decide_eq_true_eq, slot]
  constructor
  · rintro ⟨child, ⟨index, isChild, hasTests, sameSlot⟩, rfl⟩
    exact ⟨index, child, isChild, hasTests, sameSlot, rfl⟩
  · rintro ⟨index, child, isChild, hasTests, sameSlot, rfl⟩
    exact ⟨child, ⟨index, isChild, hasTests, sameSlot⟩, rfl⟩

/-! ## Survivors -/

/-- The descent leads through groups with tests alone, and it becomes the other descent
when their siblings without tests are left out. -/
inductive Survives : Group → List Nat → List Nat → Prop
  | root {suite : Group} :
      Survives suite [] []
  | child {suite child : Group} {index : Nat} {descent place : List Nat} :
      suite.groups[index]? = some child →
      child.HasTests →
      Survives child descent place →
      Survives suite (index :: descent) (suite.slot index :: place)

/-- The groups have the same name, the same tags in the same order, and the same tests of
their own. -/
structure SameOwn (left right : Group) : Prop where
  name_eq : left.name = right.name
  tags_eq : left.tags = right.tags
  tests_eq : left.tests = right.tests

theorem prune_sameOwn (suite : Group) : suite.prune.SameOwn suite := by
  obtain ⟨name, tags, groups, tests⟩ := suite
  rw [prune_group]
  exact ⟨rfl, rfl, rfl⟩

theorem Survives.groupAt? {suite : Group} {descent place : List Nat}
    (survives : Survives suite descent place) :
    ∃ below, suite.groupAt? descent = some below ∧
      suite.prune.groupAt? place = some below.prune := by
  induction survives with
  | root => exact ⟨_, rfl, rfl⟩
  | child isChild hasTests _ inductionHypothesis =>
      obtain ⟨below, reached, left⟩ := inductionHypothesis
      have isLeft :=
        groups_prune_getElem?_eq_some_iff.2 ⟨_, _, isChild, hasTests, rfl, rfl⟩
      exact ⟨below, groupAt?_cons_eq_some_iff.2 ⟨_, isChild, reached⟩,
        groupAt?_cons_eq_some_iff.2 ⟨_, isLeft, left⟩⟩

theorem exists_survives {suite pruned : Group} {place : List Nat}
    (isLeft : suite.prune.groupAt? place = some pruned) :
    ∃ descent, Survives suite descent place := by
  induction place generalizing suite with
  | nil => exact ⟨[], Survives.root⟩
  | cons slot place inductionHypothesis =>
      obtain ⟨prunedChild, isChild, reached⟩ := groupAt?_cons_eq_some_iff.1 isLeft
      obtain ⟨index, child, isOrigin, hasTests, rfl, rfl⟩ :=
        groups_prune_getElem?_eq_some_iff.1 isChild
      obtain ⟨descent, survives⟩ := inductionHypothesis reached
      exact ⟨index :: descent, Survives.child isOrigin hasTests survives⟩

theorem Survives.descent_unique {suite : Group} {descent other place : List Nat}
    (survives : Survives suite descent place) (otherSurvives : Survives suite other place) :
    other = descent := by
  induction survives generalizing other with
  | root =>
      cases otherSurvives
      rfl
  | @child suite child index descent place isChild hasTests _ inductionHypothesis =>
      generalize equality : suite.slot index :: place = whole at otherSurvives
      cases otherSurvives with
      | root => cases equality
      | @child _ otherChild otherIndex _ _ isOther otherHasTests below =>
          -- Both children have tests, so equal slots mean that they are the same child.
          obtain ⟨sameSlot, rfl⟩ := List.cons.inj equality
          have sameIndex :=
            index_eq_of_slot_eq isChild hasTests isOther otherHasTests sameSlot
          subst sameIndex
          rw [isChild] at isOther
          cases isOther
          rw [inductionHypothesis below]

theorem Survives.place_unique {suite : Group} {descent place other : List Nat}
    (survives : Survives suite descent place) (otherSurvives : Survives suite descent other) :
    other = place := by
  induction survives generalizing other with
  | root =>
      cases otherSurvives
      rfl
  | child isChild _ _ inductionHypothesis =>
      cases otherSurvives with
      | child isOther _ below =>
          rw [isChild] at isOther
          cases isOther
          rw [inductionHypothesis below]

theorem HasTests.of_groupAt? {suite below : Group} {descent : List Nat}
    (hasTests : below.HasTests) (reached : suite.groupAt? descent = some below) :
    suite.HasTests := by
  induction descent generalizing suite with
  | nil =>
      cases reached
      exact hasTests
  | cons index descent inductionHypothesis =>
      obtain ⟨child, isChild, reachedBelow⟩ := groupAt?_cons_eq_some_iff.1 reached
      have childHasTests := inductionHypothesis reachedBelow
      obtain ⟨name, tags, groups, tests⟩ := suite
      have member : child ∈ groups := List.mem_of_getElem? isChild
      exact hasTests_group_iff.2 (Or.inr ⟨child, member, childHasTests⟩)

theorem exists_survives_of_hasTests {suite below : Group} {descent : List Nat}
    (reached : suite.groupAt? descent = some below) (hasTests : below.HasTests) :
    ∃ place, Survives suite descent place := by
  induction descent generalizing suite with
  | nil => exact ⟨[], Survives.root⟩
  | cons index descent inductionHypothesis =>
      obtain ⟨child, isChild, reached⟩ := groupAt?_cons_eq_some_iff.1 reached
      obtain ⟨place, survives⟩ := inductionHypothesis reached
      exact ⟨_, Survives.child isChild (hasTests.of_groupAt? reached) survives⟩

theorem Survives.hasTests {suite below : Group} {descent place : List Nat}
    (survives : Survives suite descent place) (notRoot : descent ≠ [])
    (reached : suite.groupAt? descent = some below) : below.HasTests := by
  induction survives with
  | root => exact absurd rfl notRoot
  | @child suite child index descent place isChild hasTests _ inductionHypothesis =>
      obtain ⟨sameChild, isSame, reached⟩ := groupAt?_cons_eq_some_iff.1 reached
      rw [isChild] at isSame
      cases isSame
      cases descent with
      | nil =>
          cases reached
          exact hasTests
      | cons => exact inductionHypothesis (by simp) reached

theorem hasTests_prune_iff (suite : Group) : suite.prune.HasTests ↔ suite.HasTests := by
  rw [← not_iff_not, ← isEmpty_prune_iff, ← isEmpty_prune_iff, prune_prune]

theorem hasTests_of_prune_groupAt? {suite pruned : Group} {place : List Nat}
    (notRoot : place ≠ []) (isLeft : suite.prune.groupAt? place = some pruned) :
    pruned.HasTests := by
  obtain ⟨descent, survives⟩ := exists_survives isLeft
  obtain ⟨below, reached, isPruned⟩ := survives.groupAt?
  rw [isLeft] at isPruned
  cases isPruned
  have notFromRoot : descent ≠ [] := by
    rintro rfl
    cases survives
    exact notRoot rfl
  exact (hasTests_prune_iff below).2 (survives.hasTests notFromRoot reached)

theorem not_isEmpty_of_hasTests {suite : Group} (hasTests : suite.HasTests) :
    suite.isEmpty = false := by
  rw [← Bool.not_eq_true]
  intro empty
  exact (isEmpty_prune_iff suite).1 (isEmpty_prune empty) hasTests

theorem prune_eq_self_of_hasTests {suite : Group}
    (full : ∀ descent below, descent ≠ [] → suite.groupAt? descent = some below →
      below.HasTests) : suite.prune = suite := by
  induction suite using Group.induction with
  | group name tags groups tests inductionHypothesis =>
      -- The children are as full as the suite, one level further down.
      have fullChild : ∀ child ∈ groups, child.HasTests ∧ child.prune = child := by
        intro child member
        obtain ⟨index, isChild⟩ := List.mem_iff_getElem?.1 member
        have fromHere : ∀ descent below, child.groupAt? descent = some below →
            below.HasTests := by
          intro descent below reached
          exact full (index :: descent) below (by simp)
            (groupAt?_cons_eq_some_iff.2 ⟨child, isChild, reached⟩)
        exact ⟨fromHere [] child rfl,
          inductionHypothesis child member fun descent below _ => fromHere descent below⟩
      have allLeft : (groups.map prune).filter (!·.isEmpty) = groups := by
        have sameChildren : groups.map prune = groups.map id :=
          List.map_congr_left fun child member => (fullChild child member).2
        rw [sameChildren, List.map_id, List.filter_eq_self]
        intro child member
        rw [not_isEmpty_of_hasTests (fullChild child member).1]
        rfl
      rw [prune_group, allLeft]

theorem prune_eq_self_iff (suite : Group) :
    suite.prune = suite ↔
      ∀ descent below, descent ≠ [] → suite.groupAt? descent = some below →
        below.HasTests := by
  constructor
  · intro unchanged descent below notRoot reached
    rw [← unchanged] at reached
    exact hasTests_of_prune_groupAt? notRoot reached
  · exact prune_eq_self_of_hasTests

/-- Pruning leaves the root, and below it exactly the groups with tests, each with what is
its own and behind its earlier siblings with tests. -/
theorem prune_leaves_groups_with_tests (suite : Group) :
    suite.prune.SameOwn suite ∧
      (∀ descent below, descent ≠ [] → suite.groupAt? descent = some below →
        (below.HasTests ↔
          ∃! place, Survives suite descent place ∧
            ∃ pruned, suite.prune.groupAt? place = some pruned ∧ pruned.SameOwn below)) ∧
      (∀ place pruned, suite.prune.groupAt? place = some pruned →
        ∃! descent, Survives suite descent place ∧
          ∃ below, suite.groupAt? descent = some below ∧ pruned.SameOwn below) ∧
      (∀ place pruned, place ≠ [] → suite.prune.groupAt? place = some pruned →
        pruned.isEmpty = false) ∧
      (suite.prune = suite ↔
        ∀ descent below, descent ≠ [] → suite.groupAt? descent = some below →
          below.HasTests) ∧
      suite.prune.prune = suite.prune := by
  refine ⟨prune_sameOwn suite, ?_, ?_, ?_, prune_eq_self_iff suite, prune_prune suite⟩
  · intro descent below notRoot reached
    constructor
    · intro hasTests
      obtain ⟨place, survives⟩ := exists_survives_of_hasTests reached hasTests
      obtain ⟨same, isSame, isLeft⟩ := survives.groupAt?
      rw [reached] at isSame
      cases isSame
      exact ⟨place, ⟨survives, _, isLeft, prune_sameOwn below⟩,
        fun other otherSurvives => survives.place_unique otherSurvives.1⟩
    · rintro ⟨place, ⟨survives, _⟩, _⟩
      exact survives.hasTests notRoot reached
  · intro place pruned isLeft
    obtain ⟨descent, survives⟩ := exists_survives isLeft
    obtain ⟨below, reached, isPruned⟩ := survives.groupAt?
    rw [isLeft] at isPruned
    cases isPruned
    exact ⟨descent, ⟨survives, below, reached, prune_sameOwn below⟩,
      fun other otherSurvives => survives.descent_unique otherSurvives.1⟩
  · intro place pruned notRoot isLeft
    exact not_isEmpty_of_hasTests (hasTests_of_prune_groupAt? notRoot isLeft)

theorem prune_leaves_groups_with_tests_nested :
    let trim : Group := ⟨"trim", .ofList ["fast", "unit"], [], [⟨"both ends", ∅, true⟩]⟩
    let text : Group := ⟨"text", ∅, [⟨"wrap", ∅, [], []⟩, trim], []⟩
    let suite : Group := ⟨"all", ∅, [⟨"old", ∅, [⟨"older", ∅, [], []⟩], []⟩, text], []⟩
    suite.prune = ⟨"all", ∅, [⟨"text", ∅, [trim], []⟩], []⟩ ∧
      suite.groupAt? [1, 1] = some trim ∧
      (∃ place pruned, Survives suite [1, 1] place ∧
        suite.prune.groupAt? place = some pruned ∧ pruned.SameOwn trim) ∧
      (¬ ∃ place, Survives suite [0] place) ∧
      suite.prune ≠ suite := by
  intro trim text suite
  have leaves := prune_leaves_groups_with_tests suite
  have reached : suite.groupAt? [1, 1] = some trim := rfl
  obtain ⟨place, ⟨survives, pruned, isLeft, same⟩, _⟩ :=
    (leaves.2.1 [1, 1] trim (by simp) reached).1 (by decide)
  refine ⟨by decide, reached, ⟨place, pruned, survives, isLeft, same⟩, ?_, ?_⟩
  · rintro ⟨place, survives⟩
    exact absurd (survives.hasTests (by simp) rfl) (by decide)
  · intro unchanged
    have old : HasTests ⟨"old", ∅, [⟨"older", ∅, [], []⟩], []⟩ :=
      leaves.2.2.2.2.1.1 unchanged [0] _ (by simp) rfl
    exact absurd old (by decide)

end TagSelection.Group
