import TagSelection.Suite

/-!
# Inherited tags

A group passes its tags down to everything it contains.  The effective tags of a
test are the tags of the groups around it, outermost first, and then its own.
-/

namespace TagSelection

/-- A test with its place in the suite and its effective tags. -/
structure PlacedTest where
  /-- The names of the groups around the test, outermost first. -/
  path : List String
  test : TestCase
  /-- The inherited tags, followed by the test's own. -/
  tags : TagSet
  deriving DecidableEq

namespace PlacedTest

/-- The name of the test after the names of the groups around it.  Names are joined
by `::`; a path that joins to nothing is left out. -/
def qualifiedName (entry : PlacedTest) : String :=
  let qualifier := "::".intercalate entry.path
  if qualifier = "" then entry.test.name else qualifier ++ "::" ++ entry.test.name

end PlacedTest

namespace Group

def ownPlacedTests (inherited : TagSet) (path : List String) (tests : List TestCase) :
    List PlacedTest :=
  tests.map fun test => { path, test, tags := inherited ∪ test.tags }

mutual

/-- The tests below a group that stands at a path and inherits tags: first the
group's own tests, then those of its child groups. -/
def placedTestsFrom (inherited : TagSet) (path : List String) :
    Group → List PlacedTest
  | ⟨name, tags, groups, tests⟩ =>
      ownPlacedTests (inherited ∪ tags) (path ++ [name]) tests ++
        placedTestsOfAll (inherited ∪ tags) (path ++ [name]) groups

def placedTestsOfAll (inherited : TagSet) (path : List String) :
    List Group → List PlacedTest
  | [] => []
  | group :: rest =>
      placedTestsFrom inherited path group ++ placedTestsOfAll inherited path rest

end

/-- Every test of the suite with its place and its effective tags. -/
def placedTests (suite : Group) : List PlacedTest :=
  suite.placedTestsFrom ∅ []

theorem placedTestsOfAll_eq_flatMap (inherited : TagSet) (path : List String)
    (groups : List Group) :
    placedTestsOfAll inherited path groups =
      groups.flatMap (placedTestsFrom inherited path) := by
  induction groups with
  | nil => rfl
  | cons group rest inductionHypothesis =>
      simp [placedTestsOfAll, inductionHypothesis]

end Group

end TagSelection
