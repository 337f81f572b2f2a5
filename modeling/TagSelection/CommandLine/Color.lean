import TagSelection.Environment

namespace TagSelection.CommandLine

inductive ColorChoice where
  | auto
  | always
  | never
  deriving DecidableEq, Repr

namespace ColorChoice

def name : ColorChoice → String
  | .auto => "auto"
  | .always => "always"
  | .never => "never"

def all : List ColorChoice := [.auto, .always, .never]

def ofName? (text : String) : Option ColorChoice :=
  all.find? fun choice => choice.name = text

def variableName : String := "CARGO_TERM_COLOR"

/-- The wish of the environment; a name that is not known counts as none. -/
def ofEnvironment (environment : Environment) : ColorChoice :=
  ((environment.get? variableName).bind ofName?).getD .auto

end ColorChoice

def terminalShowsColors (environment : Environment) : Bool :=
  (environment.get? "NO_COLOR").isNone &&
    (environment.get? "TERM").any (· != "dumb") &&
    (environment.get? "CLICOLOR").getD "1" != "0"

/-- Whether colours are used if nobody asked for them or refused them. -/
def usesColorsByDefault (environment : Environment) (terminal : Bool) : Bool :=
  (terminal && terminalShowsColors environment) ||
    (environment.get? "CLICOLOR_FORCE").getD "0" != "0"

/-- Whether colours are used.  The command line is asked before the environment, and
its `auto` overrules the wish of the environment, too. -/
def usesColors (environment : Environment) (terminal : Bool)
    (choice : Option ColorChoice) : Bool :=
  match choice.getD (.ofEnvironment environment) with
  | .always => true
  | .never => false
  | .auto => usesColorsByDefault environment terminal

end TagSelection.CommandLine
