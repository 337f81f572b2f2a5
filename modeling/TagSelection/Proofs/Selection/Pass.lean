import TagSelection.Proofs.Selection.Selected
import TagSelection.Proofs.Suite.Passes

/-!
# Selections as filter passes

A selection whose filter can be built is one filter pass over the suite, with pruning
behind it if that is wished.  That holds also of a filter that hands the suite back as
it is, since a pass that keeps every test changes nothing.
-/

namespace TagSelection

/-- The suite that filtering gives is that of a pass, also where the suite is handed
back as it is. -/
theorem TestFilter.suite_select {Filter : Type} [TestFilter Filter] {filter : Filter}
    (honest : Honest filter) (suite : Group) :
    (select filter suite).suite = suite.keepTests (keeps filter) ∅ := by
  unfold select
  split
  case isTrue everything =>
    exact (Group.keepTests_of_forall (honest everything) suite ∅).symm
  case isFalse => rfl

theorem ExpressionFilter.ofExpression_eq_ok_iff {expression : String}
    {filter : ExpressionFilter} :
    ofExpression expression = .ok filter ↔
      filter.expression = expression ∧
        Expression.parse expression = .ok filter.condition := by
  rw [ofExpression, bind_eq_ok_iff]
  constructor
  · rintro ⟨condition, parsed, equality⟩
    cases equality
    exact ⟨rfl, parsed⟩
  · rintro ⟨rfl, parsed⟩
    exact ⟨_, parsed, rfl⟩

namespace Selection

theorem toFilter_of_blank {selection : Selection}
    (blank : Text.isBlankText selection.expression = true) :
    selection.toFilter = .ok (.tagLists ⟨selection.tags, selection.excludedTags⟩) := by
  rw [toFilter, blank]
  rfl

theorem toFilter_of_parse {selection : Selection} {condition : Condition}
    (notBlank : Text.isBlankText selection.expression = false)
    (parsed : Expression.parse selection.expression = .ok condition) :
    selection.toFilter =
      .ok (.expression { expression := selection.expression, condition }) := by
  rw [toFilter, notBlank, ExpressionFilter.ofExpression, parsed]
  rfl

def withExpression (lists : Selection) (expression : String) : Selection :=
  { lists with expression }

theorem toFilter_of_describes {expression : String} {condition : Condition}
    (describes : Expression.Describes expression.toList condition) (lists : Selection) :
    (lists.withExpression expression).toFilter =
      .ok (.expression { expression, condition }) :=
  toFilter_of_parse describes.not_blank describes.parse

/-- A selection has the filter of its expression, or that of its lists if the expression
is blank. -/
theorem toFilter_eq_ok_iff {selection : Selection} {filter : SelectionFilter} :
    selection.toFilter = .ok filter ↔
      (Text.isBlankText selection.expression = true ∧
          filter = .tagLists ⟨selection.tags, selection.excludedTags⟩) ∨
        (Text.isBlankText selection.expression = false ∧
          ∃ inner, ExpressionFilter.ofExpression selection.expression = .ok inner ∧
            filter = .expression inner) := by
  cases blank : Text.isBlankText selection.expression with
  | true => simp [toFilter_of_blank blank, eq_comm]
  | false =>
      rw [toFilter, if_neg (by simp [blank])]
      cases ExpressionFilter.ofExpression selection.expression with
      | error fault => simp [Except.map]
      | ok inner => simp [Except.map, eq_comm]

theorem honest_of_toFilter {selection : Selection} {filter : SelectionFilter}
    (isFilter : selection.toFilter = .ok filter) : TestFilter.Honest filter := by
  rcases toFilter_eq_ok_iff.1 isFilter with ⟨_, rfl⟩ | ⟨notBlank, inner, isInner, rfl⟩
  · exact honest_tagLists selection
  · obtain ⟨sameExpression, _⟩ := ExpressionFilter.ofExpression_eq_ok_iff.1 isInner
    have honest := honest_expression inner.condition notBlank
    rwa [← sameExpression] at honest

/-- Whether the selection has a filter and that filter keeps tests with these effective
tags. -/
def admits (selection : Selection) (tags : TagSet) : Bool :=
  match selection.toFilter with
  | .ok filter => TestFilter.keeps filter tags
  | .error _ => false

theorem admits_of_toFilter {selection : Selection} {filter : SelectionFilter}
    (isFilter : selection.toFilter = .ok filter) :
    selection.admits = TestFilter.keeps filter := by
  funext tags
  rw [admits, isFilter]

def pass (selection : Selection) (suite : Group) (prune : Bool) : Group :=
  if prune then (suite.keepTests selection.admits ∅).prune
  else suite.keepTests selection.admits ∅

theorem select_eq_pass {selection : Selection} {filter : SelectionFilter}
    (isFilter : selection.toFilter = .ok filter) (suite : Group) (prune : Bool) :
    selection.select suite prune = .ok (selection.pass suite prune) := by
  have selected := TestFilter.suite_select (honest_of_toFilter isFilter) suite
  rw [pass, admits_of_toFilter isFilter, ← selected, select, isFilter]
  rfl

theorem select_congr {selection other : Selection} {filter otherFilter : SelectionFilter}
    (isFilter : selection.toFilter = .ok filter)
    (isOtherFilter : other.toFilter = .ok otherFilter)
    (same : ∀ tags, TestFilter.keeps filter tags = TestFilter.keeps otherFilter tags)
    (suite : Group) (prune : Bool) :
    selection.select suite prune = other.select suite prune := by
  have sameAdmits : selection.admits = other.admits := by
    rw [admits_of_toFilter isFilter, admits_of_toFilter isOtherFilter]
    exact funext same
  rw [select_eq_pass isFilter, select_eq_pass isOtherFilter, pass, pass, sameAdmits]

end Selection

end TagSelection
