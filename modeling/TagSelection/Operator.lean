import TagSelection.Condition
import TagSelection.Text.Blank

namespace TagSelection

inductive Operator where
  | and
  | or
  | not
  deriving DecidableEq, Repr

/-- What can be wrong with the call of an operator, wherever it stands. -/
inductive CallFault where
  | unknownOperator (name : String)
  | negationOf (count : Nat)
  deriving DecidableEq, Repr

namespace Operator

def name : Operator → String
  | .and => "and"
  | .or => "or"
  | .not => "not"

def all : List Operator := [.and, .or, .not]

/-- The names of all operators, as messages list them. -/
def nameList : String := ", ".intercalate (all.map name)

/-- The operator whose name is the given one up to the case of ASCII letters. -/
def named? (text : String) : Option Operator :=
  all.find? fun operator => operator.name.toList == text.toList.map Char.toLower

/-- The operator with the given name; blanks around it do not count. -/
def ofName (text : String) : Except CallFault Operator :=
  let name := Text.trim text
  match named? name with
  | some operator => .ok operator
  | none => .error (.unknownOperator name)

def combine : Operator → List Condition → Except CallFault Condition
  | .and, operands => .ok (.and operands)
  | .or, operands => .ok (.or operands)
  | .not, [operand] => .ok (.not (some operand))
  | .not, operands => .error (.negationOf operands.length)

end Operator

/-- The condition of the call of a named operator. -/
def Condition.ofCall (name : String) (operands : List Condition) :
    Except CallFault Condition := do
  let operator ← Operator.ofName name
  operator.combine operands

def CallFault.message : CallFault → String
  | .unknownOperator name =>
      "unsupported operator \"" ++ name ++ "\", supported operators are: " ++
        Operator.nameList
  | .negationOf count =>
      "\"not\" takes exactly one operand, got " ++ toString count

end TagSelection
