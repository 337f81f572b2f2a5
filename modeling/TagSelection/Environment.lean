namespace TagSelection

/-- Environment variables; of several entries for a name the first one counts. -/
structure Environment where
  /-- The names with their values; a value that is no text is missing. -/
  entries : List (String × Option String)

namespace Environment

def get? (environment : Environment) (name : String) : Option String :=
  (environment.entries.lookup name).join

def set (environment : Environment) (name value : String) : Environment where
  entries := (name, some value) :: environment.entries

/-- Set a variable unless it is set to a text already. -/
def setDefault (environment : Environment) (name value : String) : Environment :=
  if (environment.get? name).isSome then environment else environment.set name value

end Environment

end TagSelection
