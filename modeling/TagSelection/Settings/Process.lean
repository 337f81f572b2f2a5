import TagSelection.Settings
import TagSelection.Environment.File

namespace TagSelection

/-- The paths at which the file that adds to the environment may stand, the nearest
first. -/
def environmentPaths (around : Nat) : List String :=
  (List.range (around + 1)).map fun steps =>
    String.join (List.replicate steps "../") ++ ".env"

/-- The environment with what the nearest file `.env` adds to it. -/
def Environment.withFile (environment : Environment) (files : Files) : Environment :=
  match files.readFirst? (environmentPaths files.around) with
  | some content => EnvironmentFile.extend environment content
  | none => environment

def Settings.ofProcess (files : Files) (environment : Environment) : Settings :=
  .loadOrDefault files (environment.withFile files)

end TagSelection
