import TagSelection.Text.Quoted

namespace TagSelection.Document

/-- A value that stands where another kind of value is wanted. -/
inductive Found where
  | null
  | boolean (value : Bool)
  | integer (value : Int)
  /-- A floating-point number, as its format shows it. -/
  | floatingPoint (shown : String)
  | text (value : String)
  | sequence
  | map
  deriving DecidableEq, Repr

inductive Wanted where
  | text
  | flag
  | tagSet
  | list
  | group
  | testCase
  | runSettings
  deriving DecidableEq, Repr

inductive DataFault where
  | wrongType (found : Found) (wanted : Wanted)
  /-- A sequence that stands for a record of some fields is empty. -/
  | emptyRecord (wanted : Wanted) (fields : Nat)
  | missingField (name : String)
  | duplicateField (name : String)
  deriving DecidableEq, Repr

inductive Format where
  | toml
  | json
  deriving DecidableEq, Repr

inductive Fault where
  | malformed (format : Format)
  | data (fault : DataFault)
  deriving DecidableEq, Repr

def Found.describe : Found → String
  | .null => "null"
  | .boolean value => "boolean `" ++ toString value ++ "`"
  | .integer value => "integer `" ++ toString value ++ "`"
  | .floatingPoint shown => "floating point `" ++ shown ++ "`"
  | .text value => "string " ++ Text.quoted value
  | .sequence => "sequence"
  | .map => "map"

def Wanted.describe : Wanted → String
  | .text => "a string"
  | .flag => "a boolean"
  | .tagSet => "a set"
  | .list => "a sequence"
  | .group => "struct Group"
  | .testCase => "struct TestCase"
  | .runSettings => "struct RunConfig"

def DataFault.message : DataFault → String
  | .wrongType found wanted =>
      "invalid type: " ++ found.describe ++ ", expected " ++ wanted.describe
  | .emptyRecord wanted fields =>
      "invalid length 0, expected " ++ wanted.describe ++ " with " ++ toString fields ++
        " elements"
  | .missingField name => "missing field `" ++ name ++ "`"
  | .duplicateField name => "duplicate field `" ++ name ++ "`"

/-- The wording of a fault; a broken rule of the format is not described further. -/
def Fault.message : Fault → String
  | .malformed .toml => "<toml syntax error>"
  | .malformed .json => "<json syntax error>"
  | .data fault => fault.message

end TagSelection.Document
