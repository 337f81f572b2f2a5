import TagSelection.Selection.Filter
import TagSelection.Suite.Pruning

namespace TagSelection

structure Selection where
  /-- The expression; blank if the lists decide. -/
  expression : String := ""
  /-- The tags of which a test must have one, if there are any. -/
  tags : TagSet := ∅
  excludedTags : TagSet := ∅
  deriving DecidableEq

namespace Selection

def toFilter (selection : Selection) : Except Expression.Fault SelectionFilter :=
  if Text.isBlankText selection.expression then
    .ok (.tagLists { tags := selection.tags, excludedTags := selection.excludedTags })
  else
    (ExpressionFilter.ofExpression selection.expression).map .expression

/-- The suite with the selected tests; pruned if that is wished. -/
def select (selection : Selection) (suite : Group) (prune : Bool) :
    Except Expression.Fault Group := do
  let filter ← selection.toFilter
  let selected := (TestFilter.select filter suite).suite
  .ok (if prune then selected.prune else selected)

end Selection

end TagSelection
