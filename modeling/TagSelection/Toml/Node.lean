/-!
# TOML data

The data of a TOML document as a tree, and the rules for how key-value lines and
headers build it.  A table remembers how it came about, because that decides who may
still add to it: a header defines a table once, a table that a header only passed
through may be defined later, a table made by dotted keys is open to further dotted
keys, and an inline table is closed.
-/

namespace TagSelection.Toml

/-- How a table came about. -/
inductive Origin where
  | header
  /-- A header passes through it on the way to another table. -/
  | passed
  /-- A dotted key made it. -/
  | dotted
  | inline
  deriving DecidableEq, Repr

inductive Node where
  | text (value : String)
  | integer (value : Int)
  | float (value : Float)
  | boolean (value : Bool)
  /-- A date or a time, of which only the form is checked. -/
  | moment
  | array (items : List Node)
  | table (origin : Origin) (entries : List (String × Node))
  /-- The tables of headers in double brackets. -/
  | tables (items : List (List (String × Node)))

/-- The entries of a table, in the order in which they were added. -/
abbrev Entries := List (String × Node)

namespace Entries

def find? (key : String) : Entries → Option Node
  | [] => none
  | (name, node) :: rest => if name = key then some node else find? key rest

def replace (key : String) (node : Node) : Entries → Entries
  | [] => []
  | (name, old) :: rest =>
      if name = key then (name, node) :: rest else (name, old) :: replace key node rest

def erase (key : String) (entries : Entries) : Entries :=
  entries.filter fun entry => entry.1 != key

def changeLast (change : Entries → Option Entries) :
    List Entries → Option (List Entries)
  | [] => none
  | [last] => (change last).map ([·])
  | first :: rest => (changeLast change rest).map (first :: ·)

/-- Add a value under a dotted key: `path` leads through tables made by dotted keys,
which are made where they are missing, to the table that gets the value under
`key`. -/
def insertDotted (key : String) (value : Node) : (path : List String) → Entries →
    Option Entries
  | [], entries =>
      if (find? key entries).isSome then none else some (entries ++ [(key, value)])
  | name :: path, entries =>
      match find? name entries with
      | none => do
          let inner ← insertDotted key value path []
          some (entries ++ [(name, .table .dotted inner)])
      | some (.table origin inner) =>
          -- A table that a header has passed through takes tables from dotted keys, but no
          -- values.
          if origin = .dotted || (origin = .passed && !path.isEmpty) then do
            let inner ← insertDotted key value path inner
            some (replace name (.table origin inner) entries)
          else none
      | some (.tables items) =>
          if path.isEmpty then none
          else do
            let items ← changeLast (insertDotted key value path) items
            some (replace name (.tables items) entries)
      | some _ => none

/-- Change the table that the path of a header leads to.  Missing tables are made on
the way; an array of tables is entered at its last table. -/
def changeAt (change : Entries → Option Entries) : (path : List String) → Entries →
    Option Entries
  | [], entries => change entries
  | name :: path, entries =>
      match find? name entries with
      | none => do
          let inner ← changeAt change path []
          some (entries ++ [(name, .table .passed inner)])
      | some (.table origin inner) =>
          if origin = .inline then none
          else do
            let inner ← changeAt change path inner
            some (replace name (.table origin inner) entries)
      | some (.tables items) => do
          let items ← changeLast (changeAt change path) items
          some (replace name (.tables items) entries)
      | some _ => none

def tableAt? : (path : List String) → Entries → Option Entries
  | [], entries => some entries
  | name :: path, entries =>
      match find? name entries with
      | some (.table _ inner) => tableAt? path inner
      | some (.tables items) => items.getLast?.bind (tableAt? path)
      | _ => none

end Entries

/-- The part of a document that belongs to one header. -/
structure Section where
  /-- The path of the table around the one that the header defines. -/
  path : List String
  name : String
  /-- Whether the header stands in double brackets. -/
  repeated : Bool

/-- A document while its lines are read. -/
structure Draft where
  /-- The entries of all sections that are finished. -/
  root : Entries := []
  /-- The header of the section that is being filled; none before the first one. -/
  current : Option Section := none
  entries : Entries := []

namespace Draft

/-- Put the entries of the current section where its header says. -/
def finish (draft : Draft) : Option Entries :=
  match draft.current with
  | none => some draft.entries
  | some part =>
      if part.repeated then
        draft.root.changeAt (fun parent =>
          match parent.find? part.name with
          | none => some (parent ++ [(part.name, .tables [draft.entries])])
          | some (.tables items) =>
              some (parent.replace part.name (.tables (items ++ [draft.entries])))
          | some _ => none) part.path
      else
        draft.root.changeAt (fun parent =>
          match parent.find? part.name with
          | none => some (parent ++ [(part.name, .table .header draft.entries)])
          | some _ => none) part.path

/-- A header in single brackets.  It may define a table that other headers have only
passed through; such a table moves behind its siblings. -/
def startTable (draft : Draft) (path : List String) (name : String) : Option Draft := do
  let root ← draft.finish
  let current : Section := { path, name, repeated := false }
  let root ← root.changeAt some path
  let parent ← root.tableAt? path
  match parent.find? name with
  | none => some { root, current := some current }
  -- The entries move into the section, so that its lines add to them.
  | some (.table .passed entries) =>
      let root ← root.changeAt (fun parent => some (parent.erase name)) path
      some { root, current := some current, entries }
  | some _ => none

def startRepeated (draft : Draft) (path : List String) (name : String) :
    Option Draft := do
  let root ← draft.finish
  let root ← root.changeAt (fun parent =>
    match parent.find? name with
    | none => some (parent ++ [(name, .tables [])])
    | some (.tables _) => some parent
    | some _ => none) path
  some { root, current := some { path, name, repeated := true } }

end Draft

end TagSelection.Toml
