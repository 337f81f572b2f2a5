import TagSelection.Environment
import TagSelection.Files
import TagSelection.Selection
import TagSelection.TagSet.CommaList
import TagSelection.Toml.Decode
import TagSelection.Toml.Reader

/-!
# Settings

The settings of a run come from a settings file and from environment variables.  A
variable that is set overrides the file, and what neither gives has a default.
-/

namespace TagSelection

structure Settings where
  selection : Selection := {}
  /-- Whether groups left without tests are removed. -/
  pruneEmptyGroups : Bool := true
  deriving DecidableEq

namespace Settings

open Document (DataFault)

/-- Whether to prune, after what the entries of a table say about it. -/
def pruneOf (fallback : Bool) : Toml.Entries → Except DataFault Bool
  | [] => .ok fallback
  | (key, node) :: rest => do
      if key = "prune_empty_groups" then
        let value ← node.toFlag
        pruneOf value rest
      else pruneOf fallback rest

def selectionOf (selection : Selection) : Toml.Entries → Except DataFault Selection
  | [] => .ok selection
  | (key, node) :: rest =>
      match key with
      | "expression_tags" => do
          let expression ← node.toText
          selectionOf { selection with expression } rest
      | "tags" => do
          let tags ← node.toTagSet
          selectionOf { selection with tags } rest
      | "excluded_tags" => do
          let excludedTags ← node.toTagSet
          selectionOf { selection with excludedTags } rest
      | _ => selectionOf selection rest

/-- The settings that the table of a run gives; whether to prune is looked at before
the tags. -/
def ofRunEntries (entries : Toml.Entries) : Except DataFault Settings := do
  let pruneEmptyGroups ← pruneOf true entries
  let selection ← selectionOf {} entries
  .ok { selection, pruneEmptyGroups }

def ofEntries (entries : Toml.Entries) : Except DataFault Settings :=
  match entries.find? "run" with
  | none => .ok {}
  | some (.table _ entries) => ofRunEntries entries
  -- A date counts as a table, and it has no entries that matter here.
  | some .moment => .ok {}
  | some node => .error (node.unwanted .runSettings)

def ofDocument (document : String) : Except Document.Fault Settings :=
  match Toml.readDocument document with
  | none => .error (.malformed .toml)
  | some entries => (ofEntries entries).mapError .data

def fileVariable : String := "TAGTREE_CONFIG"

def expressionVariable : String := "TAGTREE_EXPRESSION_TAGS"

def tagsVariable : String := "TAGTREE_TAGS"

def excludedTagsVariable : String := "TAGTREE_EXCLUDED_TAGS"

def pruneVariable : String := "TAGTREE_PRUNE_EMPTY_GROUPS"

def defaultFile : String := "tagtree.toml"

inductive Fault where
  /-- The variable for the settings file does not hold a path. -/
  | notAPath (value : String)
  | missingFile (path : String)
  | unreadable (fault : FileFault)
  | document (fault : Document.Fault)
  | notAFlag (value : String)
  deriving DecidableEq, Repr

def Fault.message (fault : Fault) : String :=
  "failed to load tagtree.toml: " ++
    match fault with
    | .notAPath value =>
        fileVariable ++ " should be a path to a config file, not a config value. Got: " ++
          Text.quoted value ++ ". Use " ++ expressionVariable ++ ", " ++ tagsVariable ++
          " or " ++ excludedTagsVariable ++ " to select tests instead."
    | .missingFile path =>
        "config file set by " ++ fileVariable ++ " not found: " ++ Text.quoted path
    | .unreadable fault => fault.message
    | .document fault =>
        "failed to deserialize tagtree.toml into tagtree::Config: " ++ fault.message
    | .notAFlag value =>
        pruneVariable ++ " should be \"true\" or \"false\", got " ++ Text.quoted value ++
          ": provided string was not `true` or `false`"

/-- The truth value that a text names; blanks around it do not count. -/
def flag? (text : String) : Option Bool :=
  match Text.trim text with
  | "true" => some true
  | "false" => some false
  | _ => none

def override (settings : Settings) (environment : Environment) : Except Fault Settings := do
  let pruneEmptyGroups ← match environment.get? pruneVariable with
    | none => .ok settings.pruneEmptyGroups
    | some value =>
        match flag? value with
        | some flag => .ok flag
        | none => .error (.notAFlag value)
  let given := settings.selection
  let selection : Selection :=
    { expression := (environment.get? expressionVariable).getD given.expression
      tags := ((environment.get? tagsVariable).map .ofCommaList).getD given.tags
      excludedTags :=
        ((environment.get? excludedTagsVariable).map .ofCommaList).getD
          given.excludedTags }
  .ok { selection, pruneEmptyGroups }

/-- The settings of the file at a path.  A file that cannot be opened gives none. -/
def ofFile (files : Files) (path : String) : Except Fault Settings :=
  match files.readText path with
  | .ok document => (ofDocument document).mapError .document
  | .error fault => if fault.isOpen then .error (.unreadable fault) else .ok {}

/-- Whether a text can be meant as the path of a settings file. -/
def mayBePath (text : String) : Bool :=
  Path.extension? text == some "toml" || text.toList.contains '/'

/-- The path of the settings file.  A file that is named by its variable must be
there. -/
def filePath (files : Files) (environment : Environment) : Except Fault String :=
  match environment.get? fileVariable with
  | none => .ok defaultFile
  | some value =>
      if !mayBePath value then .error (.notAPath value)
      else if !files.exists? value then .error (.missingFile value)
      else .ok value

def load (files : Files) (environment : Environment) : Except Fault Settings := do
  let path ← filePath files environment
  let settings ← ofFile files path
  settings.override environment

/-- The settings, or the defaults alone if anything is wrong with them. -/
def loadOrDefault (files : Files) (environment : Environment) : Settings :=
  match load files environment with
  | .ok settings => settings
  | .error _ => {}

end Settings

end TagSelection
