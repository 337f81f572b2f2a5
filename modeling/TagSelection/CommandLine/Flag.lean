import TagSelection.CommandLine.Color

namespace TagSelection.CommandLine

inductive Flag where
  | color
  | logLevel
  | spec
  | expression
  | tags
  | exclude
  | noPrune
  | help
  | version
  deriving DecidableEq, Repr

namespace Flag

def long : Flag → String
  | .color => "color"
  | .logLevel => "log-level"
  | .spec => "spec"
  | .expression => "expression"
  | .tags => "tags"
  | .exclude => "exclude"
  | .noPrune => "no-prune"
  | .help => "help"
  | .version => "version"

def short? : Flag → Option Char
  | .spec => some 's'
  | .expression => some 'e'
  | .tags => some 't'
  | .exclude => some 'x'
  | .help => some 'h'
  | .version => some 'V'
  | _ => none

def takesValue : Flag → Bool
  | .noPrune => false
  | .help => false
  | .version => false
  | _ => true

/-- Whether the option may be given several times at one place. -/
def mayRepeat : Flag → Bool
  | .tags => true
  | .exclude => true
  | _ => false

def admits (flag : Flag) (value : String) : Bool :=
  match flag with
  | .color => (ColorChoice.ofName? value).isSome
  | .spec => value != ""
  | _ => true

end Flag

/-- The places at which options stand. -/
inductive Place where
  | program
  | list
  | check
  deriving DecidableEq, Repr

namespace Place

def flags : Place → List Flag
  | .program => [.color, .logLevel, .help, .version]
  | .list =>
      [.spec, .expression, .tags, .exclude, .noPrune, .color, .logLevel, .help]
  | .check => [.color, .logLevel, .help]

def long? (place : Place) (name : String) : Option Flag :=
  place.flags.find? fun flag => flag.long = name

def short? (place : Place) (name : Char) : Option Flag :=
  place.flags.find? fun flag => flag.short? = some name

def takesOperand : Place → Bool
  | .check => true
  | _ => false

end Place

end TagSelection.CommandLine
