import TagSelection.Files
import TagSelection.SuiteFile.Json
import TagSelection.SuiteFile.Toml

namespace TagSelection

namespace SuiteFile

inductive Fault where
  | unreadable (fault : FileFault)
  | unsupportedExtension (extension : Option String)
  | document (fault : Document.Fault)
  deriving DecidableEq, Repr

def Fault.reason : Fault → String
  | .unreadable fault => fault.message
  | .unsupportedExtension extension =>
      let shown := match extension with
        | none => "None"
        | some extension => "Some(" ++ Text.quoted extension ++ ")"
      "unsupported file extension " ++ shown ++ ", expected \"toml\" or \"json\""
  | .document fault => fault.message

def Fault.message (path : String) (fault : Fault) : String :=
  "failed to load test specification " ++ path ++ ": " ++ fault.reason

/-- The suite in the file at the path.  The file is read before its extension is
looked at. -/
def load (files : Files) (path : String) : Except Fault Group := do
  let text ← (files.readText path).mapError .unreadable
  match Path.extension? path with
  | some "toml" => (Toml.readSuite text).mapError .document
  | some "json" => (Json.readSuite text).mapError .document
  | extension => .error (.unsupportedExtension extension)

end SuiteFile

end TagSelection
