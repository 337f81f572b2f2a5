import TagSelection.Json.Reader
import TagSelection.Suite

/-!
# Suites as JSON

A group is written as an object with the fields `name`, `tags`, `groups` and
`tests`, a test as one with `name`, `tags` and `ignored`; empty lists and the mark
of a test that is not ignored are left out.  When read, the fields may come in any
order, fields of other names are passed over, and an array may give the fields by
their places.  Arrays and objects may be nested up to `maxLevels` deep.
-/

namespace TagSelection

namespace Json

def writeTexts (texts : List String) : String :=
  "[" ++ ",".intercalate (texts.map quote) ++ "]"

/-- The field of the tags after the name; nothing without tags. -/
def tagsField (tags : TagSet) : String :=
  if tags.isEmpty then "" else ",\"tags\":" ++ writeTexts tags.toList

/-- A field with a list of written values after other fields; nothing for an empty
list. -/
def listField (name : String) (written : List String) : String :=
  if written.isEmpty then ""
  else ",\"" ++ name ++ "\":[" ++ ",".intercalate written ++ "]"

def writeTest (test : TestCase) : String :=
  "\x7b\"name\":" ++ quote test.name ++ tagsField test.tags ++
    (if test.ignored then ",\"ignored\":true" else "") ++ "\x7d"

mutual

def writeGroup : Group → String
  | ⟨name, tags, groups, tests⟩ =>
      "\x7b\"name\":" ++ quote name ++ tagsField tags ++
        listField "groups" (writeGroups groups) ++
        listField "tests" (tests.map writeTest) ++ "\x7d"

def writeGroups : List Group → List String
  | [] => []
  | group :: rest => writeGroup group :: writeGroups rest

end

/-! ## Reading -/

/-- The greatest depth of arrays and objects inside one another. -/
def maxLevels : Nat := 127

def readTags (levels : Nat) (characters : List Char) : Outcome (TagSet × List Char) := do
  let (tags, rest) ← readArray .tagSet levels readText characters
  .ok (.ofList tags, rest)

structure TestFields where
  name : Option String := none
  tags : Option TagSet := none
  ignored : Option Bool := none

/-- Read one field of a test, inside which `levels` brackets may be opened. -/
def readTestField (levels : Nat) (fields : TestFields) (name : String)
    (characters : List Char) : Outcome (TestFields × List Char) :=
  match name with
  | "name" => do
      let (value, rest) ← readField "name" fields.name readText characters
      .ok ({ fields with name := value }, rest)
  | "tags" => do
      let (value, rest) ← readField "tags" fields.tags (readTags levels) characters
      .ok ({ fields with tags := value }, rest)
  | "ignored" => do
      let (value, rest) ← readField "ignored" fields.ignored readFlag characters
      .ok ({ fields with ignored := value }, rest)
  | _ => do
      let rest ← ignoreField characters
      .ok (fields, rest)

def TestFields.toTest (fields : TestFields) : Outcome TestCase :=
  match fields.name with
  | none => .error (.data (.missingField "name"))
  | some name =>
      .ok { name, tags := fields.tags.getD ∅, ignored := fields.ignored.getD false }

/-- Read the fields of a test by their places in an array. -/
def readTestElements (levels : Nat) (characters : List Char) :
    Outcome (TestCase × List Char) := do
  match ← nextElement? true characters with
  | none => .error (.data (.emptyRecord .testCase 3))
  | some rest =>
      let (name, rest) ← readText rest
      let (tags, rest) ← readOptional ∅ (readTags levels) rest
      let (ignored, rest) ← readOptional false readFlag rest
      let rest ← closeArray rest
      .ok ({ name, tags, ignored }, rest)

def readTest (levels : Nat) (characters : List Char) :
    Outcome (TestCase × List Char) :=
  match skipSpace characters, levels with
  | '[' :: _, 0 => .error malformed
  | '\x7b' :: _, 0 => .error malformed
  | '[' :: rest, inner + 1 => readTestElements inner rest
  | '\x7b' :: rest, inner + 1 => do
      let (fields, rest) ← readObject (readTestField inner) {} rest
      let test ← fields.toTest
      .ok (test, rest)
  | rest, _ => .error (unwanted .testCase rest)

structure GroupReaders where
  tags : Reader TagSet
  groups : Reader (List Group)
  tests : Reader (List TestCase)

structure GroupFields where
  name : Option String := none
  tags : Option TagSet := none
  groups : Option (List Group) := none
  tests : Option (List TestCase) := none

def readGroupField (readers : GroupReaders) (fields : GroupFields) (name : String)
    (characters : List Char) : Outcome (GroupFields × List Char) :=
  match name with
  | "name" => do
      let (value, rest) ← readField "name" fields.name readText characters
      .ok ({ fields with name := value }, rest)
  | "tags" => do
      let (value, rest) ← readField "tags" fields.tags readers.tags characters
      .ok ({ fields with tags := value }, rest)
  | "groups" => do
      let (value, rest) ← readField "groups" fields.groups readers.groups characters
      .ok ({ fields with groups := value }, rest)
  | "tests" => do
      let (value, rest) ← readField "tests" fields.tests readers.tests characters
      .ok ({ fields with tests := value }, rest)
  | _ => do
      let rest ← ignoreField characters
      .ok (fields, rest)

def GroupFields.toGroup (fields : GroupFields) : Outcome Group :=
  match fields.name with
  | none => .error (.data (.missingField "name"))
  | some name =>
      .ok { name, tags := fields.tags.getD ∅, groups := fields.groups.getD [],
            tests := fields.tests.getD [] }

/-- Read the fields of a group by their places in an array. -/
def readGroupElements (readers : GroupReaders) (characters : List Char) :
    Outcome (Group × List Char) := do
  match ← nextElement? true characters with
  | none => .error (.data (.emptyRecord .group 4))
  | some rest =>
      let (name, rest) ← readText rest
      let (tags, rest) ← readOptional ∅ readers.tags rest
      let (groups, rest) ← readOptional [] readers.groups rest
      let (tests, rest) ← readOptional [] readers.tests rest
      let rest ← closeArray rest
      .ok ({ name, tags, groups, tests }, rest)

def readGroupWith (readers : GroupReaders) (characters : List Char) :
    Outcome (Group × List Char) :=
  match skipSpace characters with
  | '[' :: rest => readGroupElements readers rest
  | '\x7b' :: rest => do
      let (fields, rest) ← readObject (readGroupField readers) {} rest
      let group ← fields.toGroup
      .ok (group, rest)
  | rest => .error (unwanted .group rest)

/-- The readers for the parts of a group when `levels` brackets may be opened inside
it; a child group is read by the given reader. -/
def GroupReaders.within (levels : Nat) (child : Reader Group) : GroupReaders where
  tags := readTags levels
  groups := readArray .list levels child
  tests := readArray .list levels (readTest (levels - 1))

/-- Read a group, in which `levels` brackets may be open. -/
def readGroup : (levels : Nat) → List Char → Outcome (Group × List Char)
  | 0, characters =>
      match skipSpace characters with
      | '[' :: _ => .error malformed
      | '\x7b' :: _ => .error malformed
      | rest => .error (unwanted .group rest)
  -- Inside the object of the group not even the array of its children may be opened.
  | 1, characters => readGroupWith (.within 0 fun _ => .error malformed) characters
  | inner + 2, characters =>
      readGroupWith (.within (inner + 1) (readGroup inner)) characters

def readSuite (document : String) : Outcome Group := do
  let (group, rest) ← readGroup maxLevels document.toList
  if (skipSpace rest).isEmpty then .ok group else .error malformed

end Json

/-- The suite as a JSON document without white space. -/
def Group.toJson (suite : Group) : String := Json.writeGroup suite

end TagSelection
