import TagSelection.Proofs.SuiteFile.Levels
import TagSelection.Proofs.TagSet.FirstOccurrence
import TagSelection.SuiteFile

/-!
# Written suites read back

The JSON text of a suite is read back as the suite, name by name, tag by tag, in the
order of every list: the reader of each part takes exactly the text that was written for
it, and a part that was left out gives what its absence stands for.  The levels that a
document is allowed are the only limit.
-/

namespace TagSelection

namespace Json

theorem reads_list {α : Type} {element : Reader α} {write : α → String} {depth : α → Nat}
    {values : List α} {levels : Nat} (wanted : Document.Wanted)
    (written : values.isEmpty = false) (fits : listDepth (values.map depth) ≤ levels)
    (each : ∀ inner, levels = inner + 1 → ∀ value ∈ values, depth value ≤ inner →
      Reads element (write value) value) :
    Reads (readArray wanted levels element) (arrayText write values) values := by
  rcases (listDepth_le_iff _ _).1 fits with nothing | ⟨inner, rfl, elementsFit⟩
  · rw [List.map_eq_nil_iff] at nothing
    rw [nothing] at written
    cases written
  · refine reads_array ?_ wanted inner
    intro value member
    exact each inner rfl value member (elementsFit _ (List.mem_map_of_mem member))

theorem reads_tags {tags : TagSet} {levels : Nat} (written : tags.isEmpty = false)
    (fits : tags.jsonDepth ≤ levels) :
    Reads (readTags levels) (writeTexts tags.toList) tags := by
  have texts :
      Reads (readArray .tagSet levels readText) (writeTexts tags.toList) tags.toList :=
    reads_list .tagSet written fits fun _ _ tag _ _ => reads_text tag
  refine ⟨texts.starts, fun rest => ?_⟩
  refine (bind_eq_ok_iff _ _ _).2 ⟨_, texts.reads rest, ?_⟩
  change Except.ok (TagSet.ofList tags.toList, rest) = _
  rw [TagSet.ofList_toList]

theorem testFields_lead (test : TestCase) {levels : Nat}
    (fits : test.tags.jsonDepth ≤ levels) :
    FieldsLead (readTestField levels) {} (("name", quote test.name) :: testFields test)
      ⟨some test.name, unlessAbsent test.tags.isEmpty test.tags,
        unlessAbsent (!test.ignored) test.ignored⟩ := by
  have nameLeads :
      FieldsLead (readTestField levels) {} [("name", quote test.name)]
        ⟨some test.name, none, none⟩ :=
    FieldsLead.single (fun name => TestFields.mk name none none) (fun _ => rfl)
      (reads_text test.name)
  have tagsLead :
      FieldsLead (readTestField levels) ⟨some test.name, none, none⟩
        (optionalField "tags" test.tags.isEmpty (writeTexts test.tags.toList))
        ⟨some test.name, unlessAbsent test.tags.isEmpty test.tags, none⟩ :=
    FieldsLead.optional (fun tags => TestFields.mk (some test.name) tags none) rfl
      (fun _ => rfl) fun written => reads_tags written fits
  have ignoredLeads :
      FieldsLead (readTestField levels)
        ⟨some test.name, unlessAbsent test.tags.isEmpty test.tags, none⟩
        (optionalField "ignored" (!test.ignored) "true")
        ⟨some test.name, unlessAbsent test.tags.isEmpty test.tags,
          unlessAbsent (!test.ignored) test.ignored⟩ := by
    refine FieldsLead.optional (TestFields.mk (some test.name) _) rfl (fun _ => rfl) ?_
    intro written
    rw [Bool.not_eq_false'] at written
    rw [written]
    exact reads_true
  exact nameLeads.append (tagsLead.append ignoredLeads)

theorem reads_test (test : TestCase) {levels : Nat} (fits : test.jsonDepth ≤ levels) :
    Reads (readTest levels) (writeTest test) test := by
  cases levels with
  | zero =>
      rw [TestCase.jsonDepth] at fits
      omega
  | succ inner =>
      have tagsFit : test.tags.jsonDepth ≤ inner := by
        rw [TestCase.jsonDepth] at fits
        omega
      have text := toList_writeTest test
      refine ⟨⟨_, _, text, rfl, by decide⟩, fun rest => ?_⟩
      rw [text, List.cons_append, List.append_assoc, List.append_assoc]
      refine (bind_eq_ok_iff _ _ _).2
        ⟨_, readObject_written (testFields_lead test tagsFit) rest, ?_⟩
      -- An absent part stands for the value for which it was left out.
      have tags : (unlessAbsent test.tags.isEmpty test.tags).getD ∅ = test.tags :=
        getD_unlessAbsent (TagSet.isEmpty_iff test.tags).1
      have ignored : (unlessAbsent (!test.ignored) test.ignored).getD false = test.ignored :=
        getD_unlessAbsent (by simp)
      change Except.ok (TestCase.mk test.name
        ((unlessAbsent test.tags.isEmpty test.tags).getD ∅)
        ((unlessAbsent (!test.ignored) test.ignored).getD false), rest) = _
      rw [tags, ignored]

theorem groupFields_lead {readers : GroupReaders} (name : String) {tags : TagSet}
    {groups : List Group} {tests : List TestCase}
    (tagsRead : tags.isEmpty = false → Reads readers.tags (writeTexts tags.toList) tags)
    (groupsRead : groups.isEmpty = false →
      Reads readers.groups (arrayText writeGroup groups) groups)
    (testsRead : tests.isEmpty = false →
      Reads readers.tests (arrayText writeTest tests) tests) :
    FieldsLead (readGroupField readers) {}
      (("name", quote name) :: groupFields tags groups tests)
      ⟨some name, unlessAbsent tags.isEmpty tags, unlessAbsent groups.isEmpty groups,
        unlessAbsent tests.isEmpty tests⟩ := by
  -- The fields are read one after another; one that was left out leaves the state as it is.
  have nameLeads :
      FieldsLead (readGroupField readers) {} [("name", quote name)]
        ⟨some name, none, none, none⟩ :=
    FieldsLead.single (fun name => GroupFields.mk name none none none) (fun _ => rfl)
      (reads_text name)
  have tagsLead :
      FieldsLead (readGroupField readers) ⟨some name, none, none, none⟩
        (optionalField "tags" tags.isEmpty (writeTexts tags.toList))
        ⟨some name, unlessAbsent tags.isEmpty tags, none, none⟩ :=
    FieldsLead.optional (fun tags => GroupFields.mk (some name) tags none none) rfl
      (fun _ => rfl) tagsRead
  have groupsLead :
      FieldsLead (readGroupField readers)
        ⟨some name, unlessAbsent tags.isEmpty tags, none, none⟩
        (optionalField "groups" groups.isEmpty (arrayText writeGroup groups))
        ⟨some name, unlessAbsent tags.isEmpty tags, unlessAbsent groups.isEmpty groups,
          none⟩ :=
    FieldsLead.optional (fun groups => GroupFields.mk (some name) _ groups none) rfl
      (fun _ => rfl) groupsRead
  have testsLead :
      FieldsLead (readGroupField readers)
        ⟨some name, unlessAbsent tags.isEmpty tags, unlessAbsent groups.isEmpty groups,
          none⟩
        (optionalField "tests" tests.isEmpty (arrayText writeTest tests))
        ⟨some name, unlessAbsent tags.isEmpty tags, unlessAbsent groups.isEmpty groups,
          unlessAbsent tests.isEmpty tests⟩ :=
    FieldsLead.optional (GroupFields.mk (some name) _ _) rfl (fun _ => rfl) testsRead
  exact nameLeads.append (tagsLead.append (groupsLead.append testsLead))

theorem reads_group (suite : Group) {levels : Nat} (fits : suite.jsonDepth ≤ levels) :
    Reads (readGroup levels) (writeGroup suite) suite := by
  induction suite using Group.induction generalizing levels with
  | group name tags groups tests inductionHypothesis =>
      obtain ⟨inner, rfl, tagsFit, groupsFit, testsFit⟩ :=
        (Group.jsonDepth_le_iff _ _ _ _ _).1 fits
      -- Only a list that is written opens its array, so an empty one needs no level.
      have groupsRead (written : groups.isEmpty = false) :
          Reads (readArray .list inner (readChild inner)) (arrayText writeGroup groups)
            groups := by
        refine reads_list .list written groupsFit ?_
        rintro below rfl child member childFits
        exact inductionHypothesis child member childFits
      have testsRead (written : tests.isEmpty = false) :
          Reads (readArray .list inner (readTest (inner - 1))) (arrayText writeTest tests)
            tests := by
        refine reads_list .list written testsFit ?_
        rintro below rfl test _ testFits
        exact reads_test test testFits
      have fieldsLead :
          FieldsLead (readGroupField (.within inner (readChild inner))) {}
            (("name", quote name) :: groupFields tags groups tests) _ :=
        groupFields_lead name (fun written => reads_tags written tagsFit) groupsRead
          testsRead
      have text := toList_writeGroup name tags groups tests
      refine ⟨⟨_, _, text, rfl, by decide⟩, fun rest => ?_⟩
      rw [readGroup_succ, text, List.cons_append, List.append_assoc, List.append_assoc]
      refine (bind_eq_ok_iff _ _ _).2 ⟨_, readObject_written fieldsLead rest, ?_⟩
      change Except.ok (Group.mk name
        ((unlessAbsent tags.isEmpty tags).getD ∅)
        ((unlessAbsent groups.isEmpty groups).getD [])
        ((unlessAbsent tests.isEmpty tests).getD []), rest) = _
      rw [getD_unlessAbsent (TagSet.isEmpty_iff tags).1,
        getD_unlessAbsent List.isEmpty_iff.1, getD_unlessAbsent List.isEmpty_iff.1]

theorem jsonDepth_le_of_readSuite {document : String} {suite : Group}
    (read : readSuite document = .ok suite) : suite.jsonDepth ≤ maxLevels := by
  obtain ⟨⟨found, rest⟩, groupRead, read⟩ := (bind_eq_ok_iff _ _ _).1 read
  dsimp only at read
  split at read
  · cases read
    exact gives_group maxLevels _ _ _ groupRead
  · cases read

theorem readSuite_toJson {suite : Group} (fits : suite.jsonDepth ≤ maxLevels) :
    readSuite suite.toJson = .ok suite := by
  have groupRead := (reads_group suite fits).reads []
  rw [List.append_nil] at groupRead
  exact (bind_eq_ok_iff _ _ _).2 ⟨_, groupRead, rfl⟩

end Json

theorem fromUTF8?_toUTF8 (text : String) : String.fromUTF8? text.toUTF8 = some text := by
  unfold String.fromUTF8?
  split
  case isTrue => rfl
  case isFalse invalid => exact absurd text.isValidUTF8 invalid

namespace SuiteFile

theorem load_json {files : Files} {path text : String}
    (written : files.read path = .ok text.toUTF8)
    (extension : Path.extension? path = some "json") :
    load files path = (Json.readSuite text).mapError .document := by
  have textRead : files.readText path = .ok text := by
    refine (bind_eq_ok_iff _ _ _).2 ⟨_, written, ?_⟩
    rw [fromUTF8?_toUTF8]
  rw [load, textRead, extension]
  rfl

/-- A suite that is written to a JSON file is loaded from it again exactly as it was if
its objects and arrays are nested at most 127 deep, and only then. -/
theorem load_toJson_iff (files : Files) (path : String) (suite : Group)
    (written : files.read path = .ok suite.toJson.toUTF8)
    (extension : Path.extension? path = some "json") :
    load files path = .ok suite ↔ suite.jsonDepth ≤ 127 := by
  rw [load_json written extension, mapError_eq_ok_iff]
  constructor
  · exact Json.jsonDepth_le_of_readSuite
  · exact Json.readSuite_toJson

theorem load_toJson_iff_nested :
    let suite : Group :=
      { name := "api \"v1\"\n", tags := .ofList ["slow", "é"],
        groups := [{ name := "", tests := [{ name := "\x01\\", ignored := true }] }],
        tests := [{ name := "ping", tags := .ofList ["b", "a"] }] }
    let document :=
      "\x7b\"name\":\"api \\\"v1\\\"\\n\",\"tags\":[\"slow\",\"é\"]," ++
        "\"groups\":[\x7b\"name\":\"\"," ++
        "\"tests\":[\x7b\"name\":\"\\u0001\\\\\",\"ignored\":true\x7d]\x7d]," ++
        "\"tests\":[\x7b\"name\":\"ping\",\"tags\":[\"b\",\"a\"]\x7d]\x7d"
    let files : Files :=
      { kind := fun _ => .ok .file, read := fun _ => .ok document.toUTF8, around := 0 }
    files.read "suites/api.json" = .ok suite.toJson.toUTF8 ∧
      Path.extension? "suites/api.json" = some "json" ∧
      load files "suites/api.json" = .ok suite := by
  intro suite document files
  have isDocument : suite.toJson = document := by decide +kernel
  have written : files.read "suites/api.json" = .ok suite.toJson.toUTF8 := by
    rw [isDocument]
  have extension : Path.extension? "suites/api.json" = some "json" := by decide
  have loaded := load_toJson_iff files "suites/api.json" suite written extension
  exact ⟨written, extension, loaded.2 (by decide)⟩

end SuiteFile

end TagSelection
