import TagSelection.Operator

/-!
# Tag expressions

A tag expression is a tag or the call of an operator, such as
`and(api, not(slow))`; operands are separated by `,` or `;`.  An expression of
blanks alone restricts nothing.

The expression is read in one scan from left to right.  `Scan` is the state of
that scan: the word that is being collected, the calls that are still open and
the conditions completed outside of every call.  A closing parenthesis turns the
innermost open call into a condition, which becomes an operand of the call around
it.  Columns count characters and start at 1.
-/

namespace TagSelection

namespace Expression

inductive Fault where
  /-- The opening parenthesis at the column follows no operator name. -/
  | missingOperator (column : Nat)
  | call (fault : CallFault)
  | separatorOutside (column : Nat)
  | unmatchedClose (column : Nat)
  /-- The call opened at the column has no operands. -/
  | noOperands (operator : Operator) (column : Nat)
  | neverClosed (operator : Operator) (column : Nat)
  | conditionCount (count : Nat)
  deriving DecidableEq, Repr

/-- A call whose closing parenthesis has not been reached. -/
structure OpenCall where
  operator : Operator
  /-- The column of the opening parenthesis. -/
  column : Nat
  operands : Array Condition := #[]
  deriving DecidableEq

/-- The state of the scan of an expression. -/
structure Scan where
  /-- The characters since the last delimiter. -/
  word : String := ""
  /-- The open calls, innermost first. -/
  calls : List OpenCall := []
  /-- The conditions completed outside of every call, from left to right. -/
  results : Array Condition := #[]
  deriving DecidableEq

/-- The operand that a word stands for: its trimmed text as a tag, and nothing
for a blank word. -/
def tagOf (word : String) : Option Condition :=
  if Text.isBlankText word then none else some (.has (Text.trim word))

namespace OpenCall

def add (call : OpenCall) : Option Condition → OpenCall
  | none => call
  | some operand => { call with operands := call.operands.push operand }

def reduce (call : OpenCall) : Except Fault Condition :=
  -- A negation of nothing is left to `Operator.combine`, which counts its operands.
  if call.operands.isEmpty && call.operator != .not then
    .error (.noOperands call.operator call.column)
  else
    (call.operator.combine call.operands.toList).mapError .call

end OpenCall

namespace Scan

/-- An opening parenthesis: the word before it names the operator. -/
def openCall (scan : Scan) (column : Nat) : Except Fault Scan :=
  if Text.isBlankText scan.word then
    .error (.missingOperator column)
  else do
    let operator ← (Operator.ofName scan.word).mapError .call
    .ok { scan with word := "", calls := { operator, column } :: scan.calls }

/-- A separator: the word before it is an operand of the innermost call. -/
def endOperand (scan : Scan) (column : Nat) : Except Fault Scan :=
  match scan.calls with
  | [] => .error (.separatorOutside column)
  | call :: outer =>
      .ok { scan with word := "", calls := call.add (tagOf scan.word) :: outer }

/-- A completed condition goes to the innermost call, or to the results. -/
def complete (outer : List OpenCall) (results : Array Condition) (condition : Condition) :
    Scan :=
  match outer with
  | [] => { results := results.push condition }
  | parent :: rest => { calls := parent.add (some condition) :: rest, results }

/-- A closing parenthesis: the innermost call is complete. -/
def closeCall (scan : Scan) (column : Nat) : Except Fault Scan :=
  match scan.calls with
  | [] => .error (.unmatchedClose column)
  | call :: outer => do
      -- The word in front of the parenthesis is the last operand, unless it is blank.
      let condition ← (call.add (tagOf scan.word)).reduce
      .ok (complete outer scan.results condition)

def step (scan : Scan) (column : Nat) : Char → Except Fault Scan
  | '(' => scan.openCall column
  | ',' => scan.endOperand column
  | ';' => scan.endOperand column
  | ')' => scan.closeCall column
  | c => .ok { scan with word := scan.word.push c }

/-- The characters of the expression one after another; the first of them stands
at the given column. -/
def run (scan : Scan) (column : Nat) : List Char → Except Fault Scan
  | [] => .ok scan
  | c :: rest => do
      let next ← scan.step column c
      next.run (column + 1) rest

/-- The end of the expression: every call is closed and one condition is left. -/
def conclude (scan : Scan) : Except Fault Condition :=
  match scan.calls with
  | call :: _ => .error (.neverClosed call.operator call.column)
  | [] =>
      -- A word behind the last call counts as a condition of its own.
      let results := scan.results.toList ++ (tagOf scan.word).toList
      match results with
      | [condition] => .ok condition
      | _ => .error (.conditionCount results.length)

end Scan

/-- The condition of an expression that is not blank. -/
def scan (expression : String) : Except Fault Condition := do
  let state ← Scan.run {} 1 expression.toList
  state.conclude

/-- The condition that an expression describes. -/
def parse (expression : String) : Except Fault Condition :=
  if Text.isBlankText expression then .ok .unrestricted else scan expression

def Fault.message (expression : String) : Fault → String
  | .missingOperator column =>
      "operator expected at column " ++ toString column ++ " in tag expression \"" ++
        expression ++ "\""
  | .call fault => fault.message
  | .separatorOutside column =>
      malformed ("separator at column " ++ toString column ++
        " is outside of an operator call")
  | .unmatchedClose column => malformed ("unmatched \")\" at column " ++ toString column)
  | .noOperands operator column =>
      malformed ("\"" ++ operator.name ++ "\" at column " ++ toString column ++
        " has no operands")
  | .neverClosed operator column =>
      malformed ("\"" ++ operator.name ++ "\" at column " ++ toString column ++
        " is never closed")
  | .conditionCount count =>
      malformed ("expected a single condition but found " ++ toString count)
where
  malformed (reason : String) : String :=
    "malformed tag expression \"" ++ expression ++ "\": " ++ reason

end Expression

end TagSelection
