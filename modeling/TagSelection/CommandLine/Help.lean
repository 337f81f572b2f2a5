import TagSelection.CommandLine.Flag

namespace TagSelection.CommandLine

def Flag.purpose : Flag → String
  | .color => "use colours: auto, always or never"
  | .logLevel => "how much to log"
  | .spec => "the file of the suite, .toml or .json"
  | .expression => "the tag expression of the tests to list"
  | .tags => "list the tests that have one of these tags, separated by commas"
  | .exclude => "leave out the tests that have one of these tags"
  | .noPrune => "keep groups that are left without tests"
  | .help => "show this help"
  | .version => "show the version"

def Flag.names (flag : Flag) : String :=
  let long := "--" ++ flag.long ++ if flag.takesValue then " VALUE" else ""
  match flag.short? with
  | some short => "-" ++ short.toString ++ ", " ++ long
  | none => long

def Place.usage : Place → String
  | .program => "Usage: tagtree [OPTIONS] ls|check|help ..."
  | .list => "Usage: tagtree ls [OPTIONS] --spec VALUE"
  | .check => "Usage: tagtree check [OPTIONS] EXPRESSION"

def Place.help (place : Place) : List String :=
  place.usage :: "" ::
    place.flags.map fun flag => "  " ++ flag.names ++ "  " ++ flag.purpose

end TagSelection.CommandLine
