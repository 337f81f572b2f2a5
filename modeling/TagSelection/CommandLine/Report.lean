import TagSelection.CommandLine.Request
import TagSelection.Outline
import TagSelection.Settings
import TagSelection.SuiteFile

/-!
# Reports

What a command prints, or why it fails.  The options of a listing are laid over the
settings: lists of tags that are given replace the settings' lists and switch off an
expression of the settings, and an expression that is given counts in any case.
-/

namespace TagSelection.CommandLine

/-- The lines that a command prints, or the messages of its failure, the most general
one first. -/
abbrev Report := Except (List String) (List String)

namespace ListRequest

/-- A selection with the options of a listing laid over it. -/
def adjustSelection (request : ListRequest) (selection : Selection) : Selection where
  expression :=
    request.expression.getD
      -- An expression from below would decide alone and hide the lists.
      (if request.tags.isSome || request.excludedTags.isSome then ""
        else selection.expression)
  tags := (request.tags.map .ofCommaLists).getD selection.tags
  excludedTags :=
    (request.excludedTags.map .ofCommaLists).getD selection.excludedTags

def adjust (request : ListRequest) (settings : Settings) : Settings where
  selection := request.adjustSelection settings.selection
  pruneEmptyGroups := settings.pruneEmptyGroups && !request.keepEmpty

def summaryLine (selected suite : Group) : String :=
  toString selected.size ++ " of " ++ toString suite.size ++
    " test(s) selected"

def lines (colored : Bool) (selected suite : Group) : List String :=
  selected.outline colored ++ [summaryLine selected suite]

/-- Carry out a listing.  The suite is loaded before the expression is looked at. -/
def report (request : ListRequest) (files : Files) (settings : Settings)
    (colored : Bool) : Report := do
  let suite ← (SuiteFile.load files request.path).mapError fun fault =>
    ["failed to load " ++ request.path, fault.message request.path]
  let settings := request.adjust settings
  let selection := settings.selection
  let selected ← (selection.select suite settings.pruneEmptyGroups).mapError
    fun fault => ["invalid run tags", fault.message selection.expression]
  .ok (lines colored selected suite)

end ListRequest

def conditionLines (colored : Bool) (condition : Condition) : List String :=
  if condition.isUnrestricted then ["empty expression, every test is selected"]
  else
    [condition.render,
      Emphasis.dim.paint colored "tags:" ++ " " ++
        ", ".intercalate condition.tags.toList]

def checkReport (colored : Bool) (expression : String) : Report := do
  let condition ← (Expression.parse expression).mapError fun fault =>
    ["invalid tag expression", fault.message expression]
  .ok (conditionLines colored condition)

def Command.report (command : Command) (files : Files) (settings : Settings)
    (colored : Bool) : Report :=
  match command with
  | .list request => request.report files settings colored
  | .check expression => checkReport colored expression

end TagSelection.CommandLine
