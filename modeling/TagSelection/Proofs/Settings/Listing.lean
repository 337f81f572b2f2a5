import TagSelection.CommandLine
import TagSelection.Proofs.Selection.Pass
import TagSelection.Proofs.Settings.Layers

/-!
# The settings of a listing

The options of a listing are a layer, too, and lie over the settings that are loaded.
Where a list of tags is given without an expression, that layer has the empty expression,
so that an expression from below cannot take the place of the list.
-/

namespace TagSelection.CommandLine

open Settings (Layer)

namespace ListRequest

def layer (request : ListRequest) : Layer where
  expression :=
    request.expression.or
      (if request.tags.isSome || request.excludedTags.isSome then some "" else none)
  tags := request.tags.map .ofCommaLists
  excludedTags := request.excludedTags.map .ofCommaLists
  pruneEmptyGroups := if request.keepEmpty then some false else none

end ListRequest

end TagSelection.CommandLine
