import TagSelection.Suite
import TagSelection.Toml.Decode
import TagSelection.Toml.Reader

/-!
# Suites as TOML

The top-level table of the document is the root group.  Fields of other names are
passed over, and an array may give the fields of a group or of a test by their
places; what follows them in the array is passed over as well.
-/

namespace TagSelection.Toml

open Document (DataFault)

abbrev Decoded : Type → Type := Except DataFault

def testOfEntries (name : Option String) (tags : TagSet) (ignored : Bool) :
    Entries → Decoded TestCase
  | [] =>
      match name with
      | none => .error (.missingField "name")
      | some name => .ok { name, tags, ignored }
  | ("name", node) :: rest => do
      let value ← node.toText
      testOfEntries (some value) tags ignored rest
  | ("tags", node) :: rest => do
      let value ← node.toTagSet
      testOfEntries name value ignored rest
  | ("ignored", node) :: rest => do
      let value ← node.toFlag
      testOfEntries name tags value rest
  | _ :: rest => testOfEntries name tags ignored rest

/-- The test whose fields are given by their places. -/
def testOfItems : List Node → Decoded TestCase
  | [] => .error (.emptyRecord .testCase 3)
  | name :: fields => do
      let name ← name.toText
      let tags ← (fields[0]?.map Node.toTagSet).getD (.ok ∅)
      let ignored ← (fields[1]?.map Node.toFlag).getD (.ok false)
      .ok { name, tags, ignored }

def testOfNode : Node → Decoded TestCase
  | .table _ entries => testOfEntries none ∅ false entries
  | .moment => testOfEntries none ∅ false []
  | .array items => testOfItems items
  | node => .error (node.unwanted .testCase)

def testsOfNode : Node → Decoded (List TestCase)
  | .array items => items.mapM testOfNode
  | .tables items => items.mapM (testOfEntries none ∅ false)
  | node => .error (node.unwanted .list)

mutual

def groupOfNode : Node → Decoded Group
  | .table _ entries => groupOfEntries none ∅ [] [] entries
  | .moment => .error (.missingField "name")
  | .array [] => .error (.emptyRecord .group 4)
  | .array [name] => do
      let name ← name.toText
      .ok { name }
  | .array [name, tags] => do
      let name ← name.toText
      let tags ← tags.toTagSet
      .ok { name, tags }
  | .array [name, tags, groups] => do
      let name ← name.toText
      let tags ← tags.toTagSet
      let groups ← groupsOfNode groups
      .ok { name, tags, groups }
  -- What follows the fourth place is passed over.
  | .array (name :: tags :: groups :: tests :: _) => do
      let name ← name.toText
      let tags ← tags.toTagSet
      let groups ← groupsOfNode groups
      let tests ← testsOfNode tests
      .ok { name, tags, groups, tests }
  | node => .error (node.unwanted .group)

def groupsOfNode : Node → Decoded (List Group)
  | .array items => groupsOfItems items
  | .tables items => groupsOfTables items
  | node => .error (node.unwanted .list)

def groupsOfItems : List Node → Decoded (List Group)
  | [] => .ok []
  | item :: rest => do
      let group ← groupOfNode item
      let groups ← groupsOfItems rest
      .ok (group :: groups)

/-- The groups that the tables of headers in double brackets are. -/
def groupsOfTables : List Entries → Decoded (List Group)
  | [] => .ok []
  | entries :: rest => do
      let group ← groupOfEntries none ∅ [] [] entries
      let groups ← groupsOfTables rest
      .ok (group :: groups)

def groupOfEntries (name : Option String) (tags : TagSet) (groups : List Group)
    (tests : List TestCase) : Entries → Decoded Group
  | [] =>
      match name with
      | none => .error (.missingField "name")
      | some name => .ok { name, tags, groups, tests }
  | (key, node) :: rest =>
      match key with
      | "name" => do
          let value ← node.toText
          groupOfEntries (some value) tags groups tests rest
      | "tags" => do
          let value ← node.toTagSet
          groupOfEntries name value groups tests rest
      | "groups" => do
          let value ← groupsOfNode node
          groupOfEntries name tags value tests rest
      | "tests" => do
          let value ← testsOfNode node
          groupOfEntries name tags groups value rest
      | _ => groupOfEntries name tags groups tests rest

end

def readSuite (document : String) : Except Document.Fault Group :=
  match readDocument document with
  | none => .error (.malformed .toml)
  | some entries => (groupOfEntries none ∅ [] [] entries).mapError .data

end TagSelection.Toml
