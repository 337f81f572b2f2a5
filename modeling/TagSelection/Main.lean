import TagSelection.CommandLine
import TagSelection.CommandLine.Help

/-!
# The program

Takes the environment and the files that the run may read, runs the program on them
and prints what comes out.
-/

namespace TagSelection.Main

def codeOf : IO.Error → UInt32 × String
  | .otherError code wording | .resourceBusy code wording | .resourceVanished code wording
  | .unsupportedOperation code wording | .hardwareFault code wording
  | .unsatisfiedConstraints code wording | .illegalOperation code wording
  | .protocolError code wording | .timeExpired code wording
  | .alreadyExists _ code wording | .interrupted _ code wording
  | .noFileOrDirectory _ code wording | .invalidArgument _ code wording
  | .permissionDenied _ code wording | .resourceExhausted _ code wording
  | .inappropriateType _ code wording | .noSuchThing _ code wording => (code, wording)
  | .unexpectedEof => (0, "unexpected end of file")
  | .userError wording => (0, wording)

/-- The fault that an error stands for, which came before or after a path was opened. -/
def faultOf (opened : Bool) (error : IO.Error) : FileFault :=
  let (code, wording) := codeOf error
  -- Some codes come with their sign turned.
  match min code.toNat (-code).toNat with
  | 2 => .notFound
  | 13 => .denied
  | 20 => .notADirectory
  | 21 => .isADirectory
  | 36 => .nameTooLong
  | code => .other opened code wording

def lookAt (path : String) : IO (Except FileFault FileKind) := do
  let asked : IO IO.FS.Metadata := do ((← IO.currentDir) / path).metadata
  match ← asked.toBaseIO with
  | .ok { type := .file, .. } => return .ok .file
  | .ok { type := .dir, .. } => return .ok .directory
  | .ok _ => return .ok .other
  | .error error => return .error (faultOf false error)

def readContent (path : String) : IO (Except FileFault ByteArray) := do
  match ← (IO.FS.Handle.mk path .read).toBaseIO with
  | .error error => return .error (faultOf false error)
  | .ok handle =>
      match ← handle.readBinToEnd.toBaseIO with
      | .ok content => return .ok content
      | .error error => return .error (faultOf true error)

def countAround : IO Nat := do
  match ← IO.currentDir.toBaseIO with
  | .ok directory => return ((Path.parts directory.toString).filter (· != "")).length
  | .error _ => return 0

/-- The file system as far as the given paths lead. -/
def seeFiles (paths : List String) : IO Files := do
  let kinds ← paths.mapM fun path => do return (path, ← lookAt path)
  let contents ← paths.mapM fun path => do return (path, ← readContent path)
  return {
    kind := fun path => (kinds.lookup path).getD (.error .notFound)
    read := fun path => (contents.lookup path).getD (.error .notFound)
    around := ← countAround }

/-- The entry of an environment that its bytes describe. -/
def entryOf (bytes : List UInt8) : Option (String × Option String) := do
  let name ← String.fromUTF8? ⟨(bytes.takeWhile (· != '='.toUInt8)).toArray⟩
  let value := (bytes.dropWhile (· != '='.toUInt8)).drop 1
  some (name, String.fromUTF8? ⟨value.toArray⟩)

def readEnvironment : IO Environment := do
  match ← readContent "/proc/self/environ" with
  | .ok content => return { entries := (content.toList.splitOn 0).filterMap entryOf }
  | .error _ => return { entries := [] }

/-- The paths that a run with these words may look at, apart from those of the file that
adds to the environment. -/
def pathsOf (environment : Environment) (words : List String) : List String :=
  let settings :=
    (environment.get? Settings.fileVariable).getD Settings.defaultFile
  match CommandLine.Request.ofWords words with
  | .ok { command := .list request, .. } => [settings, request.path]
  | _ => [settings]

def display (outcome : CommandLine.Outcome) : IO Unit := do
  match outcome with
  | .printed lines => lines.forM fun line => IO.println line
  | .failed messages => messages.forM fun message => IO.eprintln ("Error: " ++ message)
  | .refused =>
      IO.eprintln "error: the command line cannot be understood"
      IO.eprintln CommandLine.Place.program.usage
  | .help place => place.help.forM fun line => IO.println line

def run (words : List String) : IO UInt32 := do
  let environment ← readEnvironment
  let additions := environmentPaths (← countAround)
  -- The file that adds to the environment may name the settings file, so it is read first.
  let extended := environment.withFile (← seeFiles additions)
  let files ← seeFiles (additions ++ pathsOf extended words)
  let terminal ← (← IO.getStdout).isTty
  let outcome := CommandLine.run files environment terminal words
  display outcome
  return outcome.exitCode.toUInt32

end TagSelection.Main

def main (words : List String) : IO UInt32 := TagSelection.Main.run words
