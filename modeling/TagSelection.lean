import TagSelection.Files.Tree
import TagSelection.Main
import TagSelection.Proofs.Expression.Language
import TagSelection.Proofs.Expression.Separation
import TagSelection.Proofs.Condition.Canonical
import TagSelection.Proofs.Selection.Selected
import TagSelection.Proofs.Condition.Gaps
import TagSelection.Proofs.Selection.Pass
import TagSelection.Proofs.Expression.Nesting
import TagSelection.Proofs.Selection.Sequence
import TagSelection.Proofs.Selection.Positions
import TagSelection.Proofs.Selection.ListExpression
import TagSelection.Proofs.Suite.Addresses
import TagSelection.Proofs.Suite.Alike
import TagSelection.Proofs.Selection.TagOrder
import TagSelection.Proofs.Settings.Layers
import TagSelection.Proofs.Settings.Listing
import TagSelection.Proofs.Json.Strings
import TagSelection.Proofs.Json.Written
import TagSelection.Proofs.SuiteFile.JsonForm
import TagSelection.Proofs.SuiteFile.RoundTrip
import TagSelection.Proofs.Suite.Survivors
import TagSelection.Proofs.Selection.Skeleton
import TagSelection.Proofs.Expression.Offences
import TagSelection.Proofs.Expression.Layout
import TagSelection.Proofs.Expression.CallText
import TagSelection.Proofs.Selection.Mentioned
import TagSelection.Proofs.Outline.Listing
import TagSelection.Proofs.Settings.TagLists
import TagSelection.Proofs.Suite.QualifiedNames
import TagSelection.Proofs.Expression.Bookkeeping
import TagSelection.Proofs.Suite.Regrouping
