/-!
# Files

What the program sees of the file system.  Whether anything is at a path and whether it
can be read are two questions: what is there may be locked, and a path may lead through a
directory that nobody may search.  A path that cannot be opened and an opened file that
cannot be read are told apart, because a settings file that cannot be opened counts as an
empty one.
-/

namespace TagSelection

inductive FileFault where
  | notFound
  | notADirectory
  | isADirectory
  | nameTooLong
  | denied
  | nulInName
  /-- The content is not text in UTF-8. -/
  | notText
  /-- Any other fault, as the operating system words it. -/
  | other (opened : Bool) (code : Nat) (wording : String)
  deriving DecidableEq, Repr

namespace FileFault

def message : FileFault → String
  | .notFound => "No such file or directory (os error 2)"
  | .notADirectory => "Not a directory (os error 20)"
  | .isADirectory => "Is a directory (os error 21)"
  | .nameTooLong => "File name too long (os error 36)"
  | .denied => "Permission denied (os error 13)"
  | .nulInName => "file name contained an unexpected NUL byte"
  | .notText => "stream did not contain valid UTF-8"
  | .other _ code wording => wording ++ " (os error " ++ toString code ++ ")"

/-- Whether the fault arose after the path had been opened. -/
def isOpen : FileFault → Bool
  | .isADirectory => true
  | .notText => true
  | .other opened _ _ => opened
  | _ => false

end FileFault

inductive FileKind where
  | file
  | directory
  | other
  deriving DecidableEq, Repr

/-- The file system, seen from the working directory. -/
structure Files where
  /-- What there is at a path, told without opening it. -/
  kind : String → Except FileFault FileKind
  read : String → Except FileFault ByteArray
  /-- The number of directories around the working directory. -/
  around : Nat

namespace Files

def readText (files : Files) (path : String) : Except FileFault String := do
  let content ← files.read path
  match String.fromUTF8? content with
  | some text => .ok text
  | none => .error .notText

/-- Whether there is anything at a path, be it readable or not. -/
def exists? (files : Files) (path : String) : Bool := (files.kind path).isOk

/-- The content of the first file among paths.  What is no file is passed over, and so is a
path that is not there; any other fault ends the search. -/
def readFirst? (files : Files) : (paths : List String) → Option ByteArray
  | [] => none
  | path :: rest =>
      match files.kind path with
      | .ok .file => (files.read path).toOption
      | .ok _ => files.readFirst? rest
      | .error .notFound => files.readFirst? rest
      | .error _ => none

end Files

namespace Path

def parts (path : String) : List String :=
  (path.toList.splitOn '/').map String.ofList

/-- The extension of the last part of a path: what follows its last dot, unless the
dot is its first character. -/
def extension? (path : String) : Option String :=
  match ((parts path).filter fun part => part != "" && part != ".").getLast? with
  | none => none
  | some ".." => none
  | some name =>
      let pieces := name.toList.splitOn '.'
      if pieces.length ≤ 1 || pieces.dropLast = [[]] then none
      else pieces.getLast?.map String.ofList

end Path

end TagSelection
