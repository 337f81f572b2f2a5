import TagSelection.CommandLine.Reading

namespace TagSelection.CommandLine

structure ListRequest where
  path : String
  expression : Option String := none
  /-- The pieces of the lists of tags, if any is given. -/
  tags : Option (List String) := none
  excludedTags : Option (List String) := none
  keepEmpty : Bool := false
  deriving DecidableEq, Repr

inductive Command where
  | list (request : ListRequest)
  | check (expression : String)
  deriving DecidableEq, Repr

structure Request where
  color : Option ColorChoice
  command : Command
  deriving DecidableEq, Repr

namespace Reading

def value? (reading : Reading) (flag : Flag) : Option String :=
  (reading.values flag).head?

/-- The pieces between the commas of the values of an option, if it is given. -/
def pieces? (reading : Reading) (flag : Flag) : Option (List String) :=
  if (reading.values flag).isEmpty then none
  else
    some ((reading.values flag).flatMap fun value =>
      (value.toList.splitOn ',').map String.ofList)

/-- The command that lists tests.  The file of the suite must be given. -/
def listCommand? (reading : Reading) : Option Command := do
  let path ← reading.value? .spec
  some <| .list
    { path
      expression := reading.value? .expression
      tags := reading.pieces? .tags
      excludedTags := reading.pieces? .exclude
      keepEmpty := (reading.value? .noPrune).isSome }

def checkCommand? (reading : Reading) : Option Command :=
  reading.operand.map .check

def command? (reading : Reading) : Place → Option Command
  | .program => none
  | .list => reading.listCommand?
  | .check => reading.checkCommand?

end Reading

def placeOfCommand? (name : String) : Option Place :=
  match name with
  | "ls" => some .list
  | "check" => some .check
  | _ => none

def helpCommand : String := "help"

/-- What the words behind the help command ask for: help about the program, about
another command or about the help command itself. -/
def helpOn : List String → Stop
  | [] => .help .program
  | [name] =>
      if name = helpCommand then .help .program
      else
        match placeOfCommand? name with
        | some place => .help place
        | none => .usage
  | _ => .usage

namespace Request

/-- The request for the command at a place.  An option behind the command counts more
than the same option in front of it. -/
def ofCommand (outer : Reading) (place : Place) (words : List String) :
    Except Stop Request := do
  let inner ← Reading.ofWords place words
  match inner.command? place with
  | none => .error .usage
  | some command => do
      -- Only here the last option in front of the command is looked at.
      let outer ← outer.settle
      let color := (inner.value? .color).or (outer.value? .color)
      .ok { color := color.bind ColorChoice.ofName?, command }

/-- Read the words from a word on that is in front of the command or names it. -/
def readFrom (outer : Reading) : List String → Except Stop Request
  | [] => .error .usage
  | text :: rest =>
      -- A word that an option waits for is no command, whatever it says.
      if outer.ended || outer.isWaiting then do
        let outer ← outer.readWord .program text
        readFrom outer rest
      else if text = helpCommand then .error (helpOn rest)
      else
        match placeOfCommand? text with
        | some place => ofCommand outer place rest
        | none => do
            let outer ← outer.readWord .program text
            readFrom outer rest

/-- The request of the words behind the name of the program. -/
def ofWords (words : List String) : Except Stop Request := readFrom {} words

end Request

end TagSelection.CommandLine
