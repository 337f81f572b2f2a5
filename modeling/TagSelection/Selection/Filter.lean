import TagSelection.Expression
import TagSelection.Suite.Inheritance

/-!
# Test filters

A filter decides from the effective tags of a test whether the test is kept.
Filtering rebuilds a suite with the kept tests only; no group is dropped, however
empty it becomes.  A filter that keeps everything hands the suite back as it is.
-/

namespace TagSelection

namespace Group

mutual

/-- The suite with the tests whose effective tags are wanted; the tags inherited
from outside come first. -/
def keepTests (wanted : TagSet → Bool) (inherited : TagSet) : Group → Group
  | ⟨name, tags, groups, tests⟩ =>
      ⟨name, tags, keepTestsOfAll wanted (inherited ∪ tags) groups,
        tests.filter fun test => wanted (inherited ∪ tags ∪ test.tags)⟩

def keepTestsOfAll (wanted : TagSet → Bool) (inherited : TagSet) :
    List Group → List Group
  | [] => []
  | group :: rest =>
      keepTests wanted inherited group :: keepTestsOfAll wanted inherited rest

end

theorem keepTestsOfAll_eq_map (wanted : TagSet → Bool) (inherited : TagSet)
    (groups : List Group) :
    keepTestsOfAll wanted inherited groups =
      groups.map (keepTests wanted inherited) := by
  induction groups with
  | nil => rfl
  | cons group rest inductionHypothesis =>
      simp [keepTestsOfAll, inductionHypothesis]

end Group

/-- A way to choose tests by their effective tags. -/
class TestFilter (Filter : Type) where
  keeps : Filter → TagSet → Bool
  /-- Whether the filter is known to keep every test. -/
  keepsAll : Filter → Bool := fun _ => false

/-- What filtering a suite gives. -/
inductive Filtered where
  /-- The suite was handed back as it is. -/
  | untouched (suite : Group)
  | rebuilt (suite : Group)

def Filtered.suite : Filtered → Group
  | .untouched suite => suite
  | .rebuilt suite => suite

def Filtered.isUntouched : Filtered → Bool
  | .untouched _ => true
  | .rebuilt _ => false

namespace TestFilter

variable {Filter : Type} [TestFilter Filter]

def select (filter : Filter) (suite : Group) : Filtered :=
  -- Nothing to decide, so the suite is not even walked through.
  if keepsAll filter then .untouched suite
  else .rebuilt (suite.keepTests (keeps filter) ∅)

end TestFilter

instance : TestFilter Condition where
  keeps condition tags := condition.holds tags

structure ExpressionFilter where
  expression : String
  condition : Condition
  deriving DecidableEq

def ExpressionFilter.ofExpression (expression : String) :
    Except Expression.Fault ExpressionFilter := do
  let condition ← Expression.parse expression
  .ok { expression, condition }

instance : TestFilter ExpressionFilter where
  keeps filter tags := filter.condition.holds tags
  keepsAll filter := Text.isBlankText filter.expression

/-- A filter by two lists: a test is kept if it has one of the wanted tags, or if
none is wanted, and has none of the excluded tags. -/
structure TagListFilter where
  tags : TagSet := ∅
  excludedTags : TagSet := ∅
  deriving DecidableEq

instance : TestFilter TagListFilter where
  keeps filter tags :=
    (filter.tags.isEmpty || !tags.disjoint filter.tags) && tags.disjoint filter.excludedTags
  keepsAll filter := filter.tags.isEmpty && filter.excludedTags.isEmpty

inductive SelectionFilter where
  | expression (filter : ExpressionFilter)
  | tagLists (filter : TagListFilter)
  deriving DecidableEq

instance : TestFilter SelectionFilter where
  keeps
    | .expression filter, tags => TestFilter.keeps filter tags
    | .tagLists filter, tags => TestFilter.keeps filter tags
  keepsAll
    | .expression filter => TestFilter.keepsAll filter
    | .tagLists filter => TestFilter.keepsAll filter

end TagSelection
