import TagSelection.Document.Fault
import TagSelection.TagSet
import TagSelection.Toml.Node
import TagSelection.Decimal.FloatText

namespace TagSelection.Toml

open Document (Found Wanted DataFault)

def floatStyle : Decimal.FloatStyle := { tie := .up }

namespace Node

def found : Node → Found
  | .text value => .text value
  | .integer value => .integer value
  | .float value => .floatingPoint (Decimal.floatText floatStyle value)
  | .boolean value => .boolean value
  | .moment => .map
  | .array _ => .sequence
  | .table _ _ => .map
  | .tables _ => .sequence

def unwanted (node : Node) (wanted : Wanted) : DataFault := .wrongType node.found wanted

def toText : Node → Except DataFault String
  | .text value => .ok value
  | node => .error (node.unwanted .text)

def toFlag : Node → Except DataFault Bool
  | .boolean value => .ok value
  | node => .error (node.unwanted .flag)

def toTagSet : Node → Except DataFault TagSet
  | .array items => do
      let tags ← items.mapM toText
      .ok (.ofList tags)
  | .tables (_ :: _) => .error (.wrongType .map .text)
  | .tables [] => .ok ∅
  | node => .error (node.unwanted .tagSet)

end Node

end TagSelection.Toml
