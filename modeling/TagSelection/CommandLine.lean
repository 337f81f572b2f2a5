import TagSelection.CommandLine.Report
import TagSelection.Settings.Process

namespace TagSelection

namespace CommandLine

/-- How a run of the program ends. -/
inductive Outcome where
  | printed (lines : List String)
  /-- The run failed; the most general message comes first. -/
  | failed (messages : List String)
  | refused
  | help (place : Place)
  deriving DecidableEq, Repr

namespace Outcome

def exitCode : Outcome → Nat
  | .printed _ => 0
  | .failed _ => 1
  | .refused => 2
  | .help _ => 0

def lines : Outcome → List String
  | .printed lines => lines
  | _ => []

def messages : Outcome → List String
  | .failed messages => messages
  | _ => []

def ofReport : Report → Outcome
  | .ok lines => .printed lines
  | .error messages => .failed messages

end Outcome

def versionLine : String := "tagtree 0.1.0"

def Stop.outcome : Stop → Outcome
  | .usage => .refused
  | .help place => .help place
  | .version => .printed [versionLine]

/-- Run the program.  The file `.env` may add to the environment, also to the
variables that decide about colours. -/
def run (files : Files) (environment : Environment) (terminal : Bool)
    (words : List String) : Outcome :=
  match Request.ofWords words with
  | .error stop => stop.outcome
  | .ok request =>
      let settings := Settings.ofProcess files environment
      let colored := usesColors (environment.withFile files) terminal request.color
      .ofReport (request.command.report files settings colored)

end CommandLine

end TagSelection
