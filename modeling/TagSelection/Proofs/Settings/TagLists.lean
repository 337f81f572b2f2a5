import Mathlib.Data.List.Nodup
import TagSelection.CommandLine.Report
import TagSelection.Proofs.Settings.Layers
import TagSelection.Proofs.TagSet.CommaLists

/-!
# Lists of tags in options and in variables

A list of tags can be given in parts, by an option that is repeated, or as a whole, by a
variable.  Both ways lead to the same set of tags: that of the parts with commas between
them.  Every line of words with such options is a proper request.
-/

namespace TagSelection.CommandLine

/-- The word that gives an option its value behind the long name. -/
def optionWord (option : Flag × String) : String :=
  "--" ++ option.1.long ++ "=" ++ option.2

def Flag.GivesList (flag : Flag) : Prop := flag = .tags ∨ flag = .exclude

theorem Word.ofText_optionWord (flag : Flag) (value : String) :
    Word.ofText (optionWord (flag, value)) = .long flag.long (some value) := by
  have characters :
      (optionWord (flag, value)).toList =
        '-' :: '-' :: (flag.long.toList ++ '=' :: value.toList) := by
    simp [optionWord]
  have noEquals : flag.long.toList.all (· != '=') = true := by
    cases flag <;> decide
  have name := List.all_eq_true.1 noEquals
  have before :
      (flag.long.toList ++ '=' :: value.toList).takeWhile (· != '=') =
        flag.long.toList := by
    rw [List.takeWhile_append_of_pos name]
    simp
  have behind :
      (flag.long.toList ++ '=' :: value.toList).dropWhile (· != '=') =
        '=' :: value.toList := by
    rw [List.dropWhile_append_of_pos name]
    simp
  -- A name or an equals sign stands behind the dashes, so they do not end the options.
  obtain ⟨first, others, isRest⟩ :
      ∃ first others, flag.long.toList ++ '=' :: value.toList = first :: others :=
    List.exists_cons_of_ne_nil (by simp)
  rw [Word.ofText, characters, isRest]
  change Word.long (String.ofList ((first :: others).takeWhile (· != '=')))
    (afterEquals? ((first :: others).dropWhile (· != '='))) = _
  rw [← isRest, before, behind, afterEquals?, String.ofList_toList, String.ofList_toList]

namespace Reading

theorem readWord_optionWord {reading : Reading} {flag : Flag}
    (settled : reading.pending = none) (running : reading.ended = false)
    (belongs : Place.list.long? flag.long = some flag) (takesValue : flag.takesValue = true)
    (value : String) :
    reading.readWord .list (optionWord (flag, value)) = reading.accept flag value := by
  have noPending : reading.settle = .ok reading := by
    rw [settle, settled]
  rw [readWord, running, Word.ofText_optionWord]
  simp only [Bool.false_eq_true, if_false, belongs, readFlag, takesValue]
  rw [noPending]
  rfl

theorem accept_list (reading : Reading) {flag : Flag} (givesList : flag.GivesList)
    (value : String) :
    reading.accept flag value =
      .ok { reading with given := reading.given ++ [(flag, value)] } := by
  rcases givesList with rfl | rfl
  · rfl
  · rfl

theorem foldlM_optionWords {options : List (Flag × String)}
    (giveLists : ∀ option ∈ options, option.1.GivesList) {reading : Reading}
    (settled : reading.pending = none) (running : reading.ended = false) :
    (options.map optionWord).foldlM (readWord .list) reading =
      .ok { reading with given := reading.given ++ options } := by
  induction options generalizing reading with
  | nil => simp [pure, Except.pure]
  | cons option later inductionHypothesis =>
      obtain ⟨givesList, laterGiveLists⟩ := List.forall_mem_cons.1 giveLists
      obtain ⟨flag, value⟩ := option
      have belongs : Place.list.long? flag.long = some flag := by
        rcases givesList with rfl | rfl <;> decide
      have takesValue : flag.takesValue = true := by
        rcases givesList with rfl | rfl <;> rfl
      have first :
          reading.readWord .list (optionWord (flag, value)) =
            .ok { reading with given := reading.given ++ [(flag, value)] } := by
        rw [readWord_optionWord settled running belongs takesValue]
        exact accept_list reading givesList value
      have rest :
          (later.map optionWord).foldlM (readWord .list)
              { reading with given := reading.given ++ [(flag, value)] } =
            .ok { reading with given := reading.given ++ [(flag, value)] ++ later } :=
        inductionHypothesis laterGiveLists settled running
      rw [List.append_assoc, List.singleton_append] at rest
      rw [List.map_cons, List.foldlM_cons, first]
      exact rest

/-- A suite and any lists of tags are read from the words of their options. -/
theorem ofWords_optionWords {path : String} {options : List (Flag × String)}
    (named : path ≠ "") (giveLists : ∀ option ∈ options, option.1.GivesList) :
    Reading.ofWords .list (optionWord (.spec, path) :: options.map optionWord) =
      .ok { given := (.spec, path) :: options } := by
  have first :
      ({} : Reading).readWord .list (optionWord (.spec, path)) =
        .ok { given := [(.spec, path)] } := by
    rw [readWord_optionWord rfl rfl (by decide) rfl, accept]
    simp [Flag.admits, named, Flag.mayRepeat, values]
  have others :
      (options.map optionWord).foldlM (readWord .list) { given := [(.spec, path)] } =
        .ok { given := (.spec, path) :: options } :=
    foldlM_optionWords giveLists rfl rfl
  rw [Reading.ofWords, List.foldlM_cons, first]
  change (options.map optionWord).foldlM _ _ >>= _ = _
  rw [others]
  rfl

/-- The pieces of the values of an option make up the set of their one list. -/
theorem ofCommaLists_pieces? {reading : Reading} {flag : Flag}
    (given : reading.values flag ≠ []) :
    (reading.pieces? flag).map TagSet.ofCommaLists =
      some (.ofCommaList (",".intercalate (reading.values flag))) := by
  have cuts :
      reading.pieces? flag = some ((reading.values flag).flatMap TagSet.commaCuts) := by
    rw [pieces?, if_neg (by simpa using given)]
    rfl
  rw [cuts, Option.map_some, TagSet.ofCommaLists_commaCuts,
    TagSet.ofCommaLists_eq_ofCommaList]

theorem lists_of_listCommand? {reading : Reading} {request : ListRequest}
    (asked : reading.listCommand? = some (.list request)) :
    request.tags = reading.pieces? .tags ∧
      request.excludedTags = reading.pieces? .exclude := by
  obtain ⟨path, _, isCommand⟩ := Option.bind_eq_some_iff.1 asked
  cases isCommand
  exact ⟨rfl, rfl⟩

theorem lists_adjust {reading : Reading} {request : ListRequest}
    (asked : reading.listCommand? = some (.list request)) (settings : Settings) :
    (reading.values .tags ≠ [] →
        (request.adjust settings).selection.tags =
          .ofCommaList (",".intercalate (reading.values .tags))) ∧
      (reading.values .exclude ≠ [] →
        (request.adjust settings).selection.excludedTags =
          .ofCommaList (",".intercalate (reading.values .exclude))) := by
  obtain ⟨tags, excludedTags⟩ := lists_of_listCommand? asked
  constructor
  · intro given
    change (request.tags.map TagSet.ofCommaLists).getD _ = _
    rw [tags, ofCommaLists_pieces? given]
    rfl
  · intro given
    change (request.excludedTags.map TagSet.ofCommaLists).getD _ = _
    rw [excludedTags, ofCommaLists_pieces? given]
    rfl

end Reading

theorem ofWords_lists {path : String} {options : List (Flag × String)}
    (named : path ≠ "") (giveLists : ∀ option ∈ options, option.1.GivesList) :
    ∃ (reading : Reading) (request : ListRequest),
      reading.given = (.spec, path) :: options ∧
        reading.listCommand? = some (.list request) ∧
        Request.ofWords ("ls" :: optionWord (.spec, path) :: options.map optionWord) =
          .ok { color := none, command := .list request } := by
  have reads := Reading.ofWords_optionWords named giveLists
  have noColor : ∀ option ∈ options, option.1 ≠ .color := by
    intro option member isColor
    rcases giveLists option member with isTags | isExclude
    · rw [isTags] at isColor
      cases isColor
    · rw [isExclude] at isColor
      cases isColor
  refine ⟨{ given := (.spec, path) :: options }, _, rfl, rfl, ?_⟩
  change Request.ofCommand {} .list _ = _
  rw [Request.ofCommand, reads]
  have unpainted :
      ({ given := (.spec, path) :: options } : Reading).value? .color = none := by
    simpa [Reading.value?, Reading.values] using fun flag value member isColor =>
      noColor (flag, value) member isColor
  change Except.ok ({ color := (Option.or (Reading.value? _ .color) none).bind _, command := _ } :
    Request) = _
  rw [unpainted]
  rfl

theorem tags_of_load {files : Files} {environment : Environment} {loaded : Settings}
    (isLoaded : Settings.load files environment = .ok loaded) :
    (∀ text, environment.get? Settings.tagsVariable = some text →
        loaded.selection.tags = .ofCommaList text) ∧
      (∀ text, environment.get? Settings.excludedTagsVariable = some text →
        loaded.selection.excludedTags = .ofCommaList text) := by
  obtain ⟨_, layered⟩ := Settings.load_eq_ok_iff.1 isLoaded
  rw [Settings.Layer.settings_atop] at layered
  constructor
  · intro text isSet
    rw [layered]
    simp [Settings.Layer.ofEnvironment, isSet]
  · intro text isSet
    rw [layered]
    simp [Settings.Layer.ofEnvironment, isSet]

/-- The lists that an option is given are read as their texts with commas between them,
and so is the text of a variable.  A comma joins two lists, the tags of a list are
listable and stand in it once, and a set of listable tags is read back from its tags with
commas and blanks between them. -/
theorem tag_lists_mean_the_same :
    (∀ (reading : Reading) (request : ListRequest) (settings : Settings),
        reading.listCommand? = some (.list request) →
          (reading.values .tags ≠ [] →
              (request.adjust settings).selection.tags =
                .ofCommaList (",".intercalate (reading.values .tags))) ∧
            (reading.values .exclude ≠ [] →
              (request.adjust settings).selection.excludedTags =
                .ofCommaList (",".intercalate (reading.values .exclude)))) ∧
      (∀ (path : String) (options : List (Flag × String)),
        path ≠ "" → (∀ option ∈ options, option.1.GivesList) →
          ∃ (reading : Reading) (request : ListRequest),
            reading.given = (.spec, path) :: options ∧
              reading.listCommand? = some (.list request) ∧
              Request.ofWords ("ls" :: optionWord (.spec, path) :: options.map optionWord) =
                .ok { color := none, command := .list request }) ∧
      (∀ (files : Files) (environment : Environment) (loaded : Settings),
        Settings.load files environment = .ok loaded →
          (∀ text, environment.get? Settings.tagsVariable = some text →
              loaded.selection.tags = .ofCommaList text) ∧
            (∀ text, environment.get? Settings.excludedTagsVariable = some text →
              loaded.selection.excludedTags = .ofCommaList text)) ∧
      (∀ first second : String,
        TagSet.ofCommaList (first ++ "," ++ second) =
          TagSet.ofCommaList first ∪ TagSet.ofCommaList second) ∧
      (∀ (value : String) (tag : Tag), tag ∈ TagSet.ofCommaList value →
        TagSet.Listable tag ∧ (TagSet.ofCommaList value).toList.count tag = 1) ∧
      ∀ (tags : TagSet) (written : List String),
        (∀ tag ∈ tags, TagSet.Listable tag) →
          List.Forall₂ TagSet.Padded written tags.toList →
            TagSet.ofCommaList (",".intercalate written) = tags := by
  refine ⟨?_, ?_, ?_, TagSet.ofCommaList_append_comma, ?_, ?_⟩
  · intro reading request settings asked
    exact Reading.lists_adjust asked settings
  · intro path options named giveLists
    exact ofWords_lists named giveLists
  · intro files environment loaded isLoaded
    exact tags_of_load isLoaded
  · intro value tag member
    have listable := TagSet.listable_of_mem_ofCommaList member
    have once := List.count_eq_one_of_mem (TagSet.ofCommaList value).nodup member
    exact ⟨listable, once⟩
  · intro tags written listable padded
    exact TagSet.ofCommaList_padded listable padded

theorem tag_lists_mean_the_same_repeated_options :
    let words := ["--spec", "suite.json", "-t", " unit,,fast", "-x=slow", "--tags", "a b ,unit"]
    let reading : Reading :=
      { given := [(.spec, "suite.json"), (.tags, " unit,,fast"), (.exclude, "slow"),
          (.tags, "a b ,unit")] }
    let request : ListRequest :=
      { path := "suite.json", tags := some [" unit", "", "fast", "a b ", "unit"],
        excludedTags := some ["slow"] }
    let files : Files :=
      { kind := fun _ => .error .notFound, read := fun _ => .error .notFound, around := 0 }
    let environment : Environment :=
      { entries := [("TAGTREE_TAGS", some " unit,,fast,a b ,unit")] }
    let tags : TagSet := .ofList ["unit", "fast", "a b"]
    let loaded : Settings := { selection := { tags } }
    Reading.ofWords .list words = .ok reading ∧
      (∀ settings : Settings,
        (request.adjust settings).selection.tags = tags ∧
          (request.adjust settings).selection.excludedTags = .ofList ["slow"]) ∧
      Settings.load files environment = .ok loaded ∧
      loaded.selection.tags = .ofCommaList " unit,,fast,a b ,unit" ∧
      TagSet.Listable "a b" ∧
      TagSet.ofCommaList "unit ,\tfast,a b" = tags ∧
      ∃ other, Request.ofWords ["ls", "--spec=a.toml", "--exclude=b=c", "--tags=,"] =
        .ok { color := none, command := .list other } := by
  intro words reading request files environment tags loaded
  have isRead : Reading.ofWords .list words = .ok reading := by decide
  have asked : reading.listCommand? = some (.list request) := by decide
  have isLoaded : Settings.load files environment = .ok loaded := by decide +kernel
  have joinedTags :
      TagSet.ofCommaList (",".intercalate (reading.values .tags)) = tags := by decide
  have joinedExcluded :
      TagSet.ofCommaList (",".intercalate (reading.values .exclude)) = .ofList ["slow"] := by
    decide
  have written : List.Forall₂ TagSet.Padded ["unit ", "\tfast", "a b"] tags.toList :=
    .cons ⟨"", " ", by decide⟩ (.cons ⟨"\t", "", by decide⟩ (.cons ⟨"", "", by decide⟩ .nil))
  obtain ⟨inOptions, inWords, inVariables, _, inLists, readBack⟩ := tag_lists_mean_the_same
  refine ⟨isRead, ?_, isLoaded, ?_, ?_, ?_, ?_⟩
  · intro settings
    obtain ⟨given, excluded⟩ := inOptions reading request settings asked
    exact ⟨(given (by decide)).trans joinedTags, (excluded (by decide)).trans joinedExcluded⟩
  · exact (inVariables files environment loaded isLoaded).1 _ (by decide)
  · exact (inLists " unit,,fast,a b ,unit" "a b" (by decide)).1
  · exact readBack tags ["unit ", "\tfast", "a b"] (by decide) written
  · obtain ⟨_, other, _, _, accepted⟩ :=
      inWords "a.toml" [(.exclude, "b=c"), (.tags, ",")] (by decide)
        (by simp [Flag.GivesList])
    exact ⟨other, accepted⟩

end TagSelection.CommandLine
