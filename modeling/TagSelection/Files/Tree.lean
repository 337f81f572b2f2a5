import TagSelection.Files

/-!
# A tree of files

The files below a working directory as a value, and what the paths of the operating
system lead to in it.  Nothing is known of what lies outside of the working directory
but that the directories around it are there.
-/

namespace TagSelection.Files

inductive Entry where
  | file (content : ByteArray)
  | directory

/-- Files and directories by the names that lead to them from the working directory. -/
structure Tree where
  entries : List (List String × Entry)

namespace Tree

/-- The tree with the given files; the directories around them are part of it. -/
def ofFiles (files : List (String × Entry)) : Tree where
  entries := files.map fun (path, entry) =>
    ((Path.parts path).filter fun part => part != "" && part != ".", entry)

inductive Place where
  /-- A directory below the working directory, or that directory itself. -/
  | inside (names : List String)
  /-- A directory that holds the working directory. -/
  | around
  | file (content : ByteArray)

/-- The greatest length of a name, in bytes. -/
def maxNameSize : Nat := 255

/-- The length, in bytes, from which a path is too long. -/
def maxPathSize : Nat := 4096

def find? (tree : Tree) (names : List String) : Option Place :=
  match tree.entries.find? fun entry => entry.1 = names with
  | some (_, .file content) => some (.file content)
  | some (_, .directory) => some (.inside names)
  | none =>
      if tree.entries.any fun entry => names.isPrefixOf entry.1 then some (.inside names)
      else none

def follow (tree : Tree) (place : Place) (part : String) : Except FileFault Place :=
  match place with
  | .file _ => .error .notADirectory
  | .around =>
      if part = "" || part = "." || part = ".." then .ok .around
      else if maxNameSize < part.utf8ByteSize then .error .nameTooLong
      else .error .notFound
  | .inside names =>
      if part = "" || part = "." then .ok (.inside names)
      else if part = ".." then .ok (if names.isEmpty then .around else .inside names.dropLast)
      else if maxNameSize < part.utf8ByteSize then .error .nameTooLong
      else
        match tree.find? (names ++ [part]) with
        | some next => .ok next
        | none => .error .notFound

/-- What a path leads to; it starts at the root if its first character is a slash,
and at the working directory otherwise. -/
def locate (tree : Tree) (path : String) : Except FileFault Place :=
  if path.toList.contains '\x00' then .error .nulInName
  else if path = "" then .error .notFound
  else if maxPathSize ≤ path.utf8ByteSize then .error .nameTooLong
  else
    (Path.parts path).foldlM (tree.follow ·)
      (if path.toList.head? = some '/' then .around else .inside [])

/-- The tree as a file system.  There are no files in the directories around it, so that none
of them need be counted. -/
def toFiles (tree : Tree) : Files where
  kind path := do
    match ← tree.locate path with
    | .file _ => .ok .file
    | _ => .ok .directory
  read path := do
    match ← tree.locate path with
    | .file content => .ok content
    | _ => .error .isADirectory
  around := 0

end Tree

end TagSelection.Files
