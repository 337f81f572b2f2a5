import TagSelection.CommandLine.Flag
import TagSelection.CommandLine.Word

/-!
# Reading options

The words at one place of a command line are read from left to right.  The value of
an option may be the next word; such an option stays pending, and it is looked at only
when the next option or operand comes or the words end.  So a wish for help wins over
faults that come later, and no faulty value is noticed before the word after it.
-/

namespace TagSelection.CommandLine

inductive Stop where
  | usage
  | help (place : Place)
  | version
  deriving DecidableEq, Repr

/-- What has been read of the words at one place. -/
structure Reading where
  /-- The options with their values, from left to right; an option that takes no value
  has an empty one. -/
  given : List (Flag × String) := []
  /-- The option that is not looked at yet, with its value if it has come. -/
  pending : Option (Flag × Option String) := none
  operand : Option String := none
  ended : Bool := false
  deriving DecidableEq, Repr

namespace Reading

def values (reading : Reading) (flag : Flag) : List String :=
  (reading.given.filter fun entry => entry.1 = flag).map Prod.snd

def isWaiting (reading : Reading) : Bool :=
  match reading.pending with
  | some (_, none) => true
  | _ => false

def accept (reading : Reading) (flag : Flag) (value : String) : Except Stop Reading :=
  if !flag.admits value then .error .usage
  else if !flag.mayRepeat && !(reading.values flag).isEmpty then .error .usage
  else .ok { reading with given := reading.given ++ [(flag, value)] }

/-- Take the pending option; it must have its value. -/
def settle (reading : Reading) : Except Stop Reading :=
  match reading.pending with
  | none => .ok reading
  | some (_, none) => .error .usage
  | some (flag, some value) => { reading with pending := none }.accept flag value

def readFlag (place : Place) (reading : Reading) (flag : Flag)
    (attached : Option String) : Except Stop Reading :=
  match flag.takesValue, attached with
  | true, some value => do
      let reading ← reading.settle
      reading.accept flag value
  | true, none => do
      let reading ← reading.settle
      .ok { reading with pending := some (flag, none) }
  | false, some _ => .error .usage
  | false, none => do
      -- A fault of the pending option counts before a wish for help or for the version.
      let reading ← reading.settle
      match flag with
      | .help => .error (.help place)
      | .version => .error .version
      | _ => reading.accept flag ""

/-- Read the short names of a word.  The first option that takes a value has the rest
of the word as its value, if there is a rest. -/
def readShort (place : Place) (reading : Reading) :
    List Char → Except Stop Reading
  | [] => .ok reading
  | c :: rest =>
      match place.short? c with
      | none => .error .usage
      | some flag =>
          if flag.takesValue then reading.readFlag place flag (Word.attachedValue? rest)
          else do
            let next ← reading.readFlag place flag none
            next.readShort place rest

def readOperand (place : Place) (reading : Reading) (text : String) :
    Except Stop Reading :=
  if place.takesOperand && reading.operand.isNone then do
    let reading ← reading.settle
    .ok { reading with operand := some text }
  else .error .usage

def readWord (place : Place) (reading : Reading) (text : String) :
    Except Stop Reading :=
  if reading.ended then reading.readOperand place text
  else
    match Word.ofText text with
    | .terminator => .ok { reading with ended := true }
    | .long name attached =>
        match place.long? name with
        | none => .error .usage
        | some flag => reading.readFlag place flag attached
    | .short characters => reading.readShort place characters
    | .plain =>
        match reading.pending with
        | some (flag, none) => .ok { reading with pending := some (flag, some text) }
        | _ => reading.readOperand place text

def ofWords (place : Place) (words : List String) : Except Stop Reading := do
  let reading ← words.foldlM (readWord place) {}
  reading.settle

end Reading

end TagSelection.CommandLine
