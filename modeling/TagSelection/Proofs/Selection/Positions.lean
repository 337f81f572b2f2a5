import Mathlib.Data.Finset.Image
import Mathlib.Data.Fintype.Basic
import Mathlib.Data.List.FinRange
import TagSelection.Proofs.Expression.Nesting
import TagSelection.Proofs.Selection.Pass

/-!
# The positions of the tests that are kept

A selection keeps some of the tests of a suite, each at its position in the list of all
of them.  Calls of the operators act on those positions as the operations on sets do:
`and(…,…)` keeps what both expressions keep, `or(…,…)` what one of them keeps, and
`not(…)` all the rest.
-/

namespace TagSelection

namespace Group

def positionsOf (suite : Group) (wanted : PlacedTest → Bool) :
    Finset (Fin suite.placedTests.length) :=
  {position | wanted suite.placedTests[position] = true}

def entriesAt (suite : Group) (positions : Finset (Fin suite.placedTests.length)) :
    List PlacedTest :=
  ((List.finRange suite.placedTests.length).filter (· ∈ positions)).map fun position =>
    suite.placedTests[position]

theorem mem_positionsOf {suite : Group} {wanted : PlacedTest → Bool}
    {position : Fin suite.placedTests.length} :
    position ∈ suite.positionsOf wanted ↔ wanted suite.placedTests[position] = true := by
  simp [positionsOf]

theorem entriesAt_positionsOf (suite : Group) (wanted : PlacedTest → Bool) :
    suite.entriesAt (suite.positionsOf wanted) = suite.placedTests.filter wanted := by
  have allEntries := List.map_get_finRange suite.placedTests
  calc
    suite.entriesAt (suite.positionsOf wanted) =
        ((List.finRange suite.placedTests.length).filter
          (wanted ∘ suite.placedTests.get)).map suite.placedTests.get := by
      simp [entriesAt, mem_positionsOf, Function.comp_def]
    _ = ((List.finRange suite.placedTests.length).map suite.placedTests.get).filter
          wanted := List.filter_map.symm
    _ = suite.placedTests.filter wanted := by rw [allEntries]

end Group

namespace Selection

/-- The positions of the tests of a suite that the selection keeps, read off the suite
that it gives without pruning. -/
def keptPositions (selection : Selection) (suite : Group) :
    Finset (Fin suite.placedTests.length) :=
  match selection.select suite false with
  | .ok selected => suite.positionsOf fun entry => entry ∈ selected.placedTests
  | .error _ => ∅

/-- The selection gives a suite that lists the tests at the positions that it keeps. -/
def ListsKept (selection : Selection) (suite : Group) : Prop :=
  ∃ selected,
    selection.select suite false = .ok selected ∧
      selected.placedTests = suite.entriesAt (selection.keptPositions suite)

open Expression

variable {expression : String} {condition : Condition}

theorem lists_of_describes (describes : Describes expression.toList condition)
    (lists : Selection) (suite : Group) (prune : Bool) :
    (lists.withExpression expression).Lists suite prune
      (fun tags => condition.holds tags = true) := by
  have isFilter := toFilter_of_describes describes lists
  exact lists_of_toFilter isFilter (honest_of_toFilter isFilter) (fun _ => Iff.rfl) suite
    prune

theorem keptPositions_of_describes (describes : Describes expression.toList condition)
    (lists : Selection) (suite : Group) :
    (lists.withExpression expression).keptPositions suite =
      suite.positionsOf fun entry => condition.holds entry.tags := by
  obtain ⟨selected, isSelected, listed, _⟩ :=
    lists_of_describes describes lists suite false
  ext position
  rw [keptPositions, isSelected]
  simp [Group.mem_positionsOf, listed]

theorem listsKept_of_describes (describes : Describes expression.toList condition)
    (lists : Selection) (suite : Group) :
    (lists.withExpression expression).ListsKept suite := by
  obtain ⟨selected, isSelected, listed, _⟩ :=
    lists_of_describes describes lists suite false
  refine ⟨selected, isSelected, ?_⟩
  rw [keptPositions_of_describes describes, Group.entriesAt_positionsOf, listed]
  simp

variable {first second : String} {firstCondition secondCondition : Condition}

theorem keptPositions_bothOf (firstDescribes : Describes first.toList firstCondition)
    (secondDescribes : Describes second.toList secondCondition) (lists : Selection)
    (suite : Group) :
    (lists.withExpression (bothOf first second)).keptPositions suite =
      (lists.withExpression first).keptPositions suite ∩
        (lists.withExpression second).keptPositions suite := by
  have both := describes_bothOf firstDescribes secondDescribes
  rw [keptPositions_of_describes both, keptPositions_of_describes firstDescribes,
    keptPositions_of_describes secondDescribes]
  ext position
  simp [Group.mem_positionsOf, Condition.holds, Condition.allHold]

theorem keptPositions_eitherOf (firstDescribes : Describes first.toList firstCondition)
    (secondDescribes : Describes second.toList secondCondition) (lists : Selection)
    (suite : Group) :
    (lists.withExpression (eitherOf first second)).keptPositions suite =
      (lists.withExpression first).keptPositions suite ∪
        (lists.withExpression second).keptPositions suite := by
  have either := describes_eitherOf firstDescribes secondDescribes
  rw [keptPositions_of_describes either, keptPositions_of_describes firstDescribes,
    keptPositions_of_describes secondDescribes]
  ext position
  simp [Group.mem_positionsOf, Condition.holds, Condition.someHolds]

theorem keptPositions_contraryOf (describes : Describes first.toList firstCondition)
    (lists : Selection) (suite : Group) :
    (lists.withExpression (contraryOf first)).keptPositions suite =
      ((lists.withExpression first).keptPositions suite)ᶜ := by
  have contrary := describes_contraryOf describes
  rw [keptPositions_of_describes contrary, keptPositions_of_describes describes]
  ext position
  simp [Group.mem_positionsOf, Condition.holds]

/-- Each test is kept either by an expression or by its contrary, so that their sizes
make up the size of the suite. -/
theorem size_add_size_contraryOf (describes : Describes first.toList firstCondition)
    (lists : Selection) (suite : Group) :
    ∃ selected others,
      (lists.withExpression first).select suite false = .ok selected ∧
        (lists.withExpression (contraryOf first)).select suite false = .ok others ∧
        selected.size + others.size = suite.size := by
  have contrary := describes_contraryOf describes
  obtain ⟨selected, isSelected, _, size⟩ := lists_of_describes describes lists suite false
  obtain ⟨others, isOthers, _, otherSize⟩ := lists_of_describes contrary lists suite false
  refine ⟨selected, others, isSelected, isOthers, ?_⟩
  have parts :=
    List.length_eq_length_filter_add (l := suite.placedTests) fun entry =>
      firstCondition.holds entry.tags
  rw [size, otherSize, ← Group.length_placedTests suite, parts]
  simp [Condition.holds]

/-- Calls of the operators act on the tests that expressions keep as the operations on
sets of positions do. -/
theorem kept_tests_form_boolean_algebra (firstNotBlank : Text.isBlankText first = false)
    (secondNotBlank : Text.isBlankText second = false)
    (firstParsed : parse first = .ok firstCondition)
    (secondParsed : parse second = .ok secondCondition) :
    parse (bothOf first second) = .ok (.and [firstCondition, secondCondition]) ∧
      parse (eitherOf first second) = .ok (.or [firstCondition, secondCondition]) ∧
      parse (contraryOf first) = .ok (.not (some firstCondition)) ∧
      ∀ (suite : Group) (lists : Selection),
        let kept expression := (lists.withExpression expression).keptPositions suite
        kept (bothOf first second) = kept first ∩ kept second ∧
          kept (eitherOf first second) = kept first ∪ kept second ∧
          kept (contraryOf first) = (kept first)ᶜ ∧
          (∀ position, Xor (position ∈ kept first) (position ∈ kept (contraryOf first))) ∧
          (∀ expression ∈ [first, second, bothOf first second, eitherOf first second,
              contraryOf first],
            (lists.withExpression expression).ListsKept suite) ∧
          ∃ selected others,
            (lists.withExpression first).select suite false = .ok selected ∧
              (lists.withExpression (contraryOf first)).select suite false = .ok others ∧
              selected.size + others.size = suite.size := by
  have firstDescribes := describes_of_parse firstNotBlank firstParsed
  have secondDescribes := describes_of_parse secondNotBlank secondParsed
  have both := describes_bothOf firstDescribes secondDescribes
  have either := describes_eitherOf firstDescribes secondDescribes
  have contrary := describes_contraryOf firstDescribes
  refine ⟨both.parse, either.parse, contrary.parse, fun suite lists => ?_⟩
  refine ⟨keptPositions_bothOf firstDescribes secondDescribes lists suite,
    keptPositions_eitherOf firstDescribes secondDescribes lists suite,
    keptPositions_contraryOf firstDescribes lists suite, ?_, ?_,
    size_add_size_contraryOf firstDescribes lists suite⟩
  · intro position
    change Xor _ (position ∈ (lists.withExpression (contraryOf first)).keptPositions suite)
    rw [keptPositions_contraryOf firstDescribes, Finset.mem_compl]
    exact xor_not_right.2 Iff.rfl
  · simp only [List.forall_mem_cons]
    exact ⟨listsKept_of_describes firstDescribes lists suite,
      listsKept_of_describes secondDescribes lists suite,
      listsKept_of_describes both lists suite, listsKept_of_describes either lists suite,
      listsKept_of_describes contrary lists suite, by simp⟩

theorem kept_tests_form_boolean_algebra_nested :
    let suite : Group :=
      ⟨"all", .ofList ["unit"],
        [⟨"io", .ofList ["slow"], [], [⟨"read", .ofList ["disk"], true⟩]⟩,
          ⟨"text", ∅, [], [⟨"trim", .ofList ["fast"], false⟩, ⟨"wrap", ∅, false⟩]⟩],
        []⟩
    let kept expression := (withExpression {} expression).keptPositions suite
    Text.isBlankText " Or(slow; fast) " = false ∧
      Text.isBlankText "not(disk)" = false ∧
      parse " Or(slow; fast) " = .ok (.or [.has "slow", .has "fast"]) ∧
      parse "not(disk)" = .ok (.not (some (.has "disk"))) ∧
      (kept " Or(slow; fast) ").image Fin.val = {0, 1} ∧
      (kept "not(disk)").image Fin.val = {1, 2} ∧
      (kept "and( Or(slow; fast) ,not(disk))").image Fin.val = {1} := by
  intro suite kept
  have firstParsed :
      parse " Or(slow; fast) " = .ok (.or [.has "slow", .has "fast"]) := by
    decide
  have secondParsed : parse "not(disk)" = .ok (.not (some (.has "disk"))) := by decide
  have algebra :=
    kept_tests_form_boolean_algebra (by decide) (by decide) firstParsed secondParsed
  have intersection :
      kept (bothOf " Or(slow; fast) " "not(disk)") =
        kept " Or(slow; fast) " ∩ kept "not(disk)" :=
    (algebra.2.2.2 suite {}).1
  have text :
      bothOf " Or(slow; fast) " "not(disk)" = "and( Or(slow; fast) ,not(disk))" := by
    decide
  rw [text] at intersection
  refine ⟨by decide, by decide, firstParsed, secondParsed, by decide +kernel,
    by decide +kernel, ?_⟩
  rw [intersection]
  decide +kernel

end Selection

end TagSelection
