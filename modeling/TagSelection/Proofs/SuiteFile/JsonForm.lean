import TagSelection.Proofs.Json.Written
import TagSelection.Proofs.Suite.Entries
import TagSelection.SuiteFile.Json

/-!
# The JSON form of a suite

A group and a test are objects that start with the name.  The other fields follow it in a
fixed order, each only if it has something to say.  The depth counts the objects and
arrays that are open at once.
-/

namespace TagSelection

namespace Json

/-- The depth of a list whose elements have the given depths; an empty list is not
written. -/
def listDepth (elements : List Nat) : Nat :=
  if elements.isEmpty then 0 else 1 + elements.foldr max 0

theorem foldr_max_le_iff (elements : List Nat) (bound : Nat) :
    elements.foldr max 0 ≤ bound ↔ ∀ depth ∈ elements, depth ≤ bound := by
  induction elements with
  | nil => simp
  | cons first rest inductionHypothesis =>
      rw [List.foldr_cons, Nat.max_le, inductionHypothesis, List.forall_mem_cons]

theorem listDepth_le_iff (elements : List Nat) (levels : Nat) :
    listDepth elements ≤ levels ↔
      elements = [] ∨ ∃ inner, levels = inner + 1 ∧ ∀ depth ∈ elements, depth ≤ inner := by
  cases elements with
  | nil => simp [listDepth]
  | cons first rest =>
      have opened : listDepth (first :: rest) = 1 + (first :: rest).foldr max 0 := rfl
      rw [opened]
      constructor
      · intro fits
        refine Or.inr ⟨levels - 1, by omega, ?_⟩
        exact (foldr_max_le_iff _ _).1 (by omega)
      · rintro (impossible | ⟨inner, rfl, fits⟩)
        · cases impossible
        · have bounded := (foldr_max_le_iff _ _).2 fits
          omega

end Json

open Json

def TagSet.jsonDepth (tags : TagSet) : Nat := listDepth (tags.toList.map fun _ => 0)

def TestCase.jsonDepth (test : TestCase) : Nat := 1 + test.tags.jsonDepth

namespace Group

mutual

/-- The depth of the object of a group. -/
def jsonDepth : Group → Nat
  | ⟨_, tags, groups, tests⟩ =>
      1 + max tags.jsonDepth
        (max (listDepth (jsonDepths groups)) (listDepth (tests.map TestCase.jsonDepth)))

def jsonDepths : List Group → List Nat
  | [] => []
  | group :: rest => jsonDepth group :: jsonDepths rest

end

theorem jsonDepths_eq_map (groups : List Group) :
    jsonDepths groups = groups.map jsonDepth := by
  induction groups with
  | nil => rfl
  | cons group rest inductionHypothesis =>
      rw [jsonDepths, inductionHypothesis, List.map_cons]

theorem jsonDepth_le_iff (name : String) (tags : TagSet) (groups : List Group)
    (tests : List TestCase) (levels : Nat) :
    jsonDepth ⟨name, tags, groups, tests⟩ ≤ levels ↔
      ∃ inner, levels = inner + 1 ∧ tags.jsonDepth ≤ inner ∧
        listDepth (groups.map jsonDepth) ≤ inner ∧
        listDepth (tests.map TestCase.jsonDepth) ≤ inner := by
  rw [jsonDepth, jsonDepths_eq_map]
  constructor
  · intro fits
    exact ⟨levels - 1, by omega, by omega, by omega, by omega⟩
  · rintro ⟨inner, rfl, tagsFit, groupsFit, testsFit⟩
    omega

end Group

namespace Json

theorem toList_tagsField (tags : TagSet) :
    (tagsField tags).toList =
      afterCommas ((optionalField "tags" tags.isEmpty (writeTexts tags.toList)).map
        fieldText) := by
  have name : (quote "tags").toList = "\"tags\"".toList := by decide
  unfold tagsField optionalField
  split
  · rfl
  · simp [afterCommas, fieldText, name]

theorem toList_listField {α : Type} {name : String}
    (plain : quote name = "\"" ++ name ++ "\"") (write : α → String) (values : List α) :
    (listField name (values.map write)).toList =
      afterCommas ((optionalField name values.isEmpty (arrayText write values)).map
        fieldText) := by
  cases values with
  | nil => rfl
  | cons first rest =>
      simp [listField, optionalField, afterCommas, fieldText, arrayText, plain]

theorem toList_ignoredField (ignored : Bool) :
    (if ignored then ",\"ignored\":true" else "").toList =
      afterCommas ((optionalField "ignored" (!ignored) "true").map fieldText) := by
  cases ignored with
  | false => rfl
  | true => decide

def testFields (test : TestCase) : List Field :=
  optionalField "tags" test.tags.isEmpty (writeTexts test.tags.toList) ++
    optionalField "ignored" (!test.ignored) "true"

theorem toList_writeTest (test : TestCase) :
    (writeTest test).toList =
      '\x7b' :: (fieldText ("name", quote test.name) ++
        (afterCommas ((testFields test).map fieldText) ++ ['\x7d'])) := by
  have name : (quote "name").toList = "\"name\"".toList := by decide
  simp [writeTest, testFields, toList_tagsField, toList_ignoredField, afterCommas_append,
    fieldText, name]

theorem writeGroups_eq_map (groups : List Group) :
    writeGroups groups = groups.map writeGroup := by
  induction groups with
  | nil => rfl
  | cons group rest inductionHypothesis =>
      rw [writeGroups, inductionHypothesis, List.map_cons]

def groupFields (tags : TagSet) (groups : List Group) (tests : List TestCase) : List Field :=
  optionalField "tags" tags.isEmpty (writeTexts tags.toList) ++
    (optionalField "groups" groups.isEmpty (arrayText writeGroup groups) ++
      optionalField "tests" tests.isEmpty (arrayText writeTest tests))

theorem toList_writeGroup (name : String) (tags : TagSet) (groups : List Group)
    (tests : List TestCase) :
    (writeGroup ⟨name, tags, groups, tests⟩).toList =
      '\x7b' :: (fieldText ("name", quote name) ++
        (afterCommas ((groupFields tags groups tests).map fieldText) ++ ['\x7d'])) := by
  have nameField : (quote "name").toList = "\"name\"".toList := by decide
  have groupsName : quote "groups" = "\"" ++ "groups" ++ "\"" := by decide
  have testsName : quote "tests" = "\"" ++ "tests" ++ "\"" := by decide
  have groupsField := toList_listField groupsName writeGroup groups
  have testsField := toList_listField testsName writeTest tests
  simp [writeGroup, groupFields, toList_tagsField, writeGroups_eq_map, groupsField,
    testsField, afterCommas_append, fieldText, nameField]

end Json

end TagSelection
