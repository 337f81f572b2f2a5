import Mathlib.Tactic.ByContra
import TagSelection.Proofs.Steps
import TagSelection.Settings

/-!
# Settings in layers

Settings come in layers: the variables of the environment lie over the settings file, and
the file over the defaults.  A layer says nothing about the fields that it does not
mention, and there the layer below counts.  A single fault of the environment or of the
file takes both of these layers away, and the defaults alone are left.
-/

namespace TagSelection

namespace Settings

open Document (DataFault)

/-- What one source says about the settings. -/
structure Layer where
  expression : Option String := none
  tags : Option TagSet := none
  excludedTags : Option TagSet := none
  pruneEmptyGroups : Option Bool := none
  deriving DecidableEq

namespace Layer

/-- A layer on top of another one, field by field. -/
def atop (upper lower : Layer) : Layer where
  expression := upper.expression.or lower.expression
  tags := upper.tags.or lower.tags
  excludedTags := upper.excludedTags.or lower.excludedTags
  pruneEmptyGroups := upper.pruneEmptyGroups.or lower.pruneEmptyGroups

/-- The settings of a layer that lies on the defaults. -/
def settings (layer : Layer) : Settings where
  selection :=
    { expression := layer.expression.getD ""
      tags := layer.tags.getD ∅
      excludedTags := layer.excludedTags.getD ∅ }
  pruneEmptyGroups := layer.pruneEmptyGroups.getD true

def ofEnvironment (environment : Environment) : Layer where
  expression := environment.get? expressionVariable
  tags := (environment.get? tagsVariable).map .ofCommaList
  excludedTags := (environment.get? excludedTagsVariable).map .ofCommaList
  pruneEmptyGroups := (environment.get? pruneVariable).bind flag?

/-- What the entries of a table give for a key; the last entry of the key counts. -/
def given? {α : Type} (decode : Toml.Node → Except DataFault α) (key : String) :
    Toml.Entries → Option α
  | [] => none
  | (name, node) :: rest =>
      (given? decode key rest).or (if name = key then (decode node).toOption else none)

def ofRunEntries (entries : Toml.Entries) : Layer where
  expression := given? Toml.Node.toText "expression_tags" entries
  tags := given? Toml.Node.toTagSet "tags" entries
  excludedTags := given? Toml.Node.toTagSet "excluded_tags" entries
  pruneEmptyGroups := given? Toml.Node.toFlag "prune_empty_groups" entries

def ofEntries (entries : Toml.Entries) : Layer :=
  match entries.find? "run" with
  | some (.table _ entries) => ofRunEntries entries
  | _ => {}

/-- What a document says; one that breaks the rules of its format says nothing. -/
def ofDocument (document : String) : Layer :=
  ((Toml.readDocument document).map ofEntries).getD {}

/-- What the file at a path says; a file that cannot be read says nothing. -/
def ofFile (files : Files) (path : String) : Layer :=
  match files.readText path with
  | .ok document => ofDocument document
  | .error _ => {}

end Layer

theorem Layer.settings_atop (upper lower : Layer) :
    (upper.atop lower).settings =
      { selection :=
          { expression := upper.expression.getD lower.settings.selection.expression
            tags := upper.tags.getD lower.settings.selection.tags
            excludedTags := upper.excludedTags.getD lower.settings.selection.excludedTags }
        pruneEmptyGroups :=
          upper.pruneEmptyGroups.getD lower.settings.pruneEmptyGroups } := by
  simp [atop, settings, Option.getD_or]

theorem getD_given?_cons {α : Type} {decode : Toml.Node → Except DataFault α} {key : String}
    {node : Toml.Node} {value : α} (decoded : decode node = .ok value)
    (rest : Toml.Entries) (fallback : α) :
    (Layer.given? decode key ((key, node) :: rest)).getD fallback =
      (Layer.given? decode key rest).getD value := by
  rw [Layer.given?, if_pos rfl, decoded]
  cases Layer.given? decode key rest <;> rfl

theorem given?_cons_of_ne {α : Type} {decode : Toml.Node → Except DataFault α}
    {key name : String} (other : name ≠ key) (node : Toml.Node) (rest : Toml.Entries) :
    Layer.given? decode key ((name, node) :: rest) = Layer.given? decode key rest := by
  rw [Layer.given?, if_neg other, Option.or_none]

theorem pruneOf_eq {entries : Toml.Entries} {fallback value : Bool}
    (decoded : pruneOf fallback entries = .ok value) :
    value = (Layer.given? Toml.Node.toFlag "prune_empty_groups" entries).getD fallback := by
  induction entries generalizing fallback with
  | nil =>
      cases decoded
      rfl
  | cons entry rest inductionHypothesis =>
      obtain ⟨key, node⟩ := entry
      rw [pruneOf] at decoded
      by_cases isKey : key = "prune_empty_groups"
      · rw [if_pos isKey] at decoded
        obtain ⟨flag, isFlag, decoded⟩ := (bind_eq_ok_iff _ _ _).1 decoded
        rw [isKey, getD_given?_cons isFlag, inductionHypothesis decoded]
      · rw [if_neg isKey] at decoded
        rw [given?_cons_of_ne isKey, inductionHypothesis decoded]

theorem selectionOf_eq {entries : Toml.Entries} {given result : Selection}
    (decoded : selectionOf given entries = .ok result) :
    result =
      { expression :=
          (Layer.given? Toml.Node.toText "expression_tags" entries).getD given.expression
        tags := (Layer.given? Toml.Node.toTagSet "tags" entries).getD given.tags
        excludedTags :=
          (Layer.given? Toml.Node.toTagSet "excluded_tags" entries).getD
            given.excludedTags } := by
  induction entries generalizing given with
  | nil =>
      cases decoded
      rfl
  | cons entry rest inductionHypothesis =>
      obtain ⟨key, node⟩ := entry
      unfold selectionOf at decoded
      split at decoded
      -- One field is given in each case, and nothing is said about the other two.
      · obtain ⟨expression, isText, decoded⟩ := (bind_eq_ok_iff _ _ _).1 decoded
        rw [getD_given?_cons isText, given?_cons_of_ne (by decide),
          given?_cons_of_ne (by decide)]
        exact inductionHypothesis decoded
      · obtain ⟨tags, isTagSet, decoded⟩ := (bind_eq_ok_iff _ _ _).1 decoded
        rw [getD_given?_cons isTagSet, given?_cons_of_ne (by decide),
          given?_cons_of_ne (by decide)]
        exact inductionHypothesis decoded
      · obtain ⟨excludedTags, isTagSet, decoded⟩ := (bind_eq_ok_iff _ _ _).1 decoded
        rw [getD_given?_cons isTagSet, given?_cons_of_ne (by decide),
          given?_cons_of_ne (by decide)]
        exact inductionHypothesis decoded
      · rw [given?_cons_of_ne ‹_›, given?_cons_of_ne ‹_›, given?_cons_of_ne ‹_›]
        exact inductionHypothesis decoded

theorem ofRunEntries_eq {entries : Toml.Entries} {settings : Settings}
    (decoded : ofRunEntries entries = .ok settings) :
    settings = (Layer.ofRunEntries entries).settings := by
  obtain ⟨prune, isPrune, decoded⟩ := (bind_eq_ok_iff _ _ _).1 decoded
  obtain ⟨selection, isSelection, decoded⟩ := (bind_eq_ok_iff _ _ _).1 decoded
  cases decoded
  rw [pruneOf_eq isPrune, selectionOf_eq isSelection]
  rfl

theorem ofEntries_eq {entries : Toml.Entries} {settings : Settings}
    (decoded : ofEntries entries = .ok settings) :
    settings = (Layer.ofEntries entries).settings := by
  rw [ofEntries] at decoded
  rw [Layer.ofEntries]
  cases isRun : entries.find? "run" with
  | none =>
      rw [isRun] at decoded
      cases decoded
      rfl
  | some node =>
      rw [isRun] at decoded
      cases node with
      | table origin inner => exact ofRunEntries_eq decoded
      | moment =>
          cases decoded
          rfl
      | text | integer | float | boolean | array | tables => cases decoded

/-- The settings of a document are those of its layer on the defaults. -/
theorem ofDocument_eq {document : String} {settings : Settings}
    (decoded : ofDocument document = .ok settings) :
    settings = (Layer.ofDocument document).settings := by
  rw [ofDocument] at decoded
  rw [Layer.ofDocument]
  cases isRead : Toml.readDocument document with
  | none =>
      rw [isRead] at decoded
      cases decoded
  | some entries =>
      rw [isRead] at decoded
      exact ofEntries_eq ((mapError_eq_ok_iff _ _ _).1 decoded)

/-! ## Faults -/

def location (environment : Environment) : String :=
  (environment.get? fileVariable).getD defaultFile

/-- Something is wrong with the environment or with the settings file.  A file that
cannot be opened is no fault, unless a variable names a path where nothing is. -/
inductive Faulty (files : Files) (environment : Environment) : Prop
  | notAPath {value : String} :
      environment.get? fileVariable = some value →
      mayBePath value = false →
      Faulty files environment
  | missingFile {value : String} :
      environment.get? fileVariable = some value →
      files.exists? value = false →
      Faulty files environment
  | unreadable {fault : FileFault} :
      files.readText (location environment) = .error fault →
      fault.isOpen = true →
      Faulty files environment
  | notSettings {document : String} {fault : Document.Fault} :
      files.readText (location environment) = .ok document →
      ofDocument document = .error fault →
      Faulty files environment
  | notAFlag {value : String} :
      environment.get? pruneVariable = some value →
      flag? value = none →
      Faulty files environment

theorem not_faulty_iff {files : Files} {environment : Environment} :
    ¬ Faulty files environment ↔
      (∀ value, environment.get? fileVariable = some value →
          mayBePath value = true ∧ files.exists? value = true) ∧
        (∀ fault, files.readText (location environment) = .error fault →
          fault.isOpen = false) ∧
        (∀ document fault, files.readText (location environment) = .ok document →
          ofDocument document ≠ .error fault) ∧
        ∀ value, environment.get? pruneVariable = some value → flag? value ≠ none := by
  constructor
  · intro sound
    refine ⟨fun value isSet => ⟨?_, ?_⟩, fun fault refused => ?_,
      fun document fault isRead refused => ?_, fun value isSet noFlag => ?_⟩
    · by_contra noPath
      exact sound (.notAPath isSet (by simpa using noPath))
    · by_contra missing
      exact sound (.missingFile isSet (by simpa using missing))
    · by_contra opened
      exact sound (.unreadable refused (by simpa using opened))
    · exact sound (.notSettings isRead refused)
    · exact sound (.notAFlag isSet noFlag)
  · rintro ⟨named, readable, settings, flags⟩ faulty
    cases faulty with
    | notAPath isSet noPath => simp [(named _ isSet).1] at noPath
    | missingFile isSet missing => simp [(named _ isSet).2] at missing
    | unreadable refused opened => simp [readable _ refused] at opened
    | notSettings isRead refused => exact settings _ _ isRead refused
    | notAFlag isSet noFlag => exact flags _ isSet noFlag

theorem filePath_eq_ok_iff {files : Files} {environment : Environment} {path : String} :
    filePath files environment = .ok path ↔
      path = location environment ∧
        ∀ value, environment.get? fileVariable = some value →
          mayBePath value = true ∧ files.exists? value = true := by
  rw [filePath, location]
  cases environment.get? fileVariable with
  | none =>
      constructor
      · intro found
        cases found
        exact ⟨rfl, by simp⟩
      · rintro ⟨rfl, _⟩
        rfl
  | some value =>
      constructor
      · intro found
        cases isPath : mayBePath value with
        | false => simp [isPath] at found
        | true =>
            cases isThere : files.exists? value with
            | false => simp [isPath, isThere] at found
            | true =>
                have same : value = path := by simpa [isPath, isThere] using found
                subst same
                refine ⟨rfl, ?_⟩
                rintro _ ⟨⟩
                exact ⟨isPath, isThere⟩
      · rintro ⟨isLocation, named⟩
        obtain ⟨isPath, isThere⟩ := named value rfl
        simp [isLocation, isPath, isThere]

theorem ofFile_eq_ok_iff {files : Files} {path : String} {settings : Settings} :
    ofFile files path = .ok settings ↔
      settings = (Layer.ofFile files path).settings ∧
        (∀ fault, files.readText path = .error fault → fault.isOpen = false) ∧
        ∀ document fault, files.readText path = .ok document →
          ofDocument document ≠ .error fault := by
  rw [ofFile, Layer.ofFile]
  cases files.readText path with
  | error fault =>
      constructor
      · intro decoded
        cases opened : fault.isOpen with
        | true => simp [opened] at decoded
        | false =>
            have defaults : {} = settings := by simpa [opened] using decoded
            exact ⟨defaults.symm, by simp [opened], by simp⟩
      · rintro ⟨rfl, notOpened, _⟩
        have notOpened := notOpened fault rfl
        simp only [notOpened]
        rfl
  | ok document =>
      constructor
      · intro decoded
        have decoded := (mapError_eq_ok_iff _ _ _).1 decoded
        refine ⟨ofDocument_eq decoded, by simp, ?_⟩
        rintro _ fault ⟨⟩ refused
        rw [decoded] at refused
        cases refused
      · rintro ⟨rfl, _, accepted⟩
        refine (mapError_eq_ok_iff _ _ _).2 ?_
        cases decoded : ofDocument document with
        | error fault => exact absurd decoded (accepted document fault rfl)
        | ok given => rw [ofDocument_eq decoded]

theorem override_eq_ok_iff {layer : Layer} {environment : Environment}
    {settings : Settings} :
    layer.settings.override environment = .ok settings ↔
      settings = ((Layer.ofEnvironment environment).atop layer).settings ∧
        ∀ value, environment.get? pruneVariable = some value → flag? value ≠ none := by
  rw [override, Layer.settings_atop, Layer.ofEnvironment]
  cases environment.get? pruneVariable with
  | none =>
      constructor
      · intro overridden
        cases overridden
        exact ⟨rfl, by simp⟩
      · rintro ⟨rfl, _⟩
        rfl
  | some value =>
      dsimp only [Option.bind_some]
      cases isFlag : flag? value with
      | none =>
          constructor
          · intro overridden
            cases overridden
          · rintro ⟨_, flags⟩
            exact absurd isFlag (flags value rfl)
      | some flag =>
          constructor
          · intro overridden
            cases overridden
            refine ⟨rfl, ?_⟩
            rintro _ ⟨⟩
            simp [isFlag]
          · rintro ⟨rfl, _⟩
            rfl

/-- Settings load exactly where nothing is wrong, and then the environment lies over the
file. -/
theorem load_eq_ok_iff {files : Files} {environment : Environment} {settings : Settings} :
    load files environment = .ok settings ↔
      ¬ Faulty files environment ∧
        settings =
          ((Layer.ofEnvironment environment).atop
            (Layer.ofFile files (location environment))).settings := by
  rw [load, bind_eq_ok_iff, not_faulty_iff]
  constructor
  · rintro ⟨path, found, loaded⟩
    obtain ⟨rfl, named⟩ := filePath_eq_ok_iff.1 found
    obtain ⟨given, decoded, overridden⟩ := (bind_eq_ok_iff _ _ _).1 loaded
    obtain ⟨rfl, readable, accepted⟩ := ofFile_eq_ok_iff.1 decoded
    obtain ⟨rfl, flags⟩ := override_eq_ok_iff.1 overridden
    exact ⟨⟨named, readable, accepted, flags⟩, rfl⟩
  · rintro ⟨⟨named, readable, accepted, flags⟩, rfl⟩
    have decoded := ofFile_eq_ok_iff.2 ⟨rfl, readable, accepted⟩
    have overridden :
        (Layer.ofFile files (location environment)).settings.override environment = .ok _ :=
      override_eq_ok_iff.2 ⟨rfl, flags⟩
    refine ⟨location environment, filePath_eq_ok_iff.2 ⟨rfl, named⟩, ?_⟩
    exact (bind_eq_ok_iff _ _ _).2 ⟨_, decoded, overridden⟩

end Settings

end TagSelection
