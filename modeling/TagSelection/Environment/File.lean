import TagSelection.Environment
import TagSelection.Text.Alphanumeric
import TagSelection.Text.Blank

/-!
# Files of environment variables

Such a file gives variables line by line, as `name=value`.  Values may be quoted and
may refer to variables by `$name`.  A variable that is set already keeps its value,
and the first faulty line ends the reading; what came before it stays.
-/

namespace TagSelection.EnvironmentFile

inductive Mode where
  /-- Plain text, or text in double quotes. -/
  | plain
  /-- Text in single quotes. -/
  | literal
  | escaped
  /-- In the name of a variable, of which some characters have been read. -/
  | name (read : String)
  | braced (read : String)
  /-- Behind the value; only blanks and a comment may follow. -/
  | ended
  | comment
  deriving DecidableEq, Repr

structure ValueState where
  output : String := ""
  quoted : Bool := false
  mode : Mode := .plain

def unescaped? : Char → Option Char
  | '\\' => some '\\'
  | '\'' => some '\''
  | '"' => some '"'
  | '$' => some '$'
  | ' ' => some ' '
  | 'n' => some '\n'
  | _ => none

namespace ValueState

def push (state : ValueState) (c : Char) : ValueState :=
  { state with output := state.output.push c }

def substitute (valueOf : String → String) (state : ValueState) (name : String) :
    ValueState :=
  { state with output := state.output ++ valueOf name, mode := .plain }

def plainStep (state : ValueState) (c : Char) : ValueState :=
  if c = '$' then { state with mode := .name "" }
  else if state.quoted then
    if c = '"' then { state with quoted := false }
    else if c = '\\' then { state with mode := .escaped }
    else state.push c
  else if c = '\'' then { state with mode := .literal }
  else if c = '"' then { state with quoted := true }
  else if c = '\\' then { state with mode := .escaped }
  else if c = ' ' || c = '\t' then { state with mode := .ended }
  else state.push c

/-- One character of a value; nothing if it may not stand there. -/
def step (valueOf : String → String) (state : ValueState) (c : Char) :
    Option ValueState :=
  match state.mode with
  | .plain => some (state.plainStep c)
  | .literal =>
      some (if c = '\'' then { state with mode := .plain } else state.push c)
  | .escaped => (unescaped? c).map fun c => { state.push c with mode := .plain }
  | .name read =>
      if Text.isAlphanumeric c then some { state with mode := .name (read.push c) }
      else if c = '\x7b' && read = "" then some { state with mode := .braced "" }
      else
        -- The character ends the name, and it may start a further one.
        let state := state.substitute valueOf read
        some (if c = '$' then { state with mode := .name "" } else state.push c)
  | .braced read =>
      some (if c = '\x7d' then state.substitute valueOf read
        else { state with mode := .braced (read.push c) })
  | .ended =>
      if c = ' ' || c = '\t' then some state
      else if c = '#' then some { state with mode := .comment }
      else none
  | .comment => some state

/-- The value at the end of its line; nothing if a quote or a brace is open. -/
def finish (valueOf : String → String) (state : ValueState) : Option String :=
  if state.quoted then none
  else
    match state.mode with
    | .literal => none
    | .braced _ => none
    | .name read => some (state.output ++ valueOf read)
    | _ => some state.output

end ValueState

def readValue (valueOf : String → String) (characters : List Char) : Option String := do
  let state ← characters.foldlM (ValueState.step valueOf) {}
  state.finish valueOf

def skipBlanks (characters : List Char) : List Char := characters.dropWhile Text.isBlank

def isNameChar (c : Char) : Bool := c.isAlphanum || c == '_' || c == '.'

def readName (characters : List Char) : Option (String × List Char) :=
  if characters.head?.any fun c => c.isAlpha || c == '_' then
    some (String.ofList (characters.takeWhile isNameChar),
      characters.dropWhile isNameChar)
  else none

def afterEquals? : List Char → Option (List Char)
  | '=' :: rest => some rest
  | _ => none

/-- The name that a line sets and the text after its equals sign.  The word `export`
may stand in front. -/
def readTarget (characters : List Char) : Option (String × List Char) := do
  let (name, rest) ← readName characters
  let rest := skipBlanks rest
  match afterEquals? rest with
  | some rest => some (name, rest)
  | none =>
      if name = "export" then do
        let (name, rest) ← readName rest
        let rest ← afterEquals? (skipBlanks rest)
        some (name, rest)
      else none

inductive Line where
  | nothing
  | variable (name value : String)
  | faulty

def isOver (characters : List Char) : Bool :=
  characters.isEmpty || characters.head? = some '#'

def readLine (valueOf : String → String) (line : String) : Line :=
  let characters := skipBlanks (Text.trimEnd line.toList)
  if isOver characters then .nothing
  else
    match readTarget characters with
    | none => .faulty
    | some (name, rest) =>
        let rest := skipBlanks rest
        if isOver rest then .variable name ""
        else
          match readValue valueOf rest with
          | some value => .variable name value
          | none => .faulty

/-- The lines of a file without their line ends; a line that is no text is missing. -/
def lines (content : ByteArray) : List (Option String) :=
  (content.toList.splitOn '\n'.toUInt8).map fun line =>
    let line := if line.getLast? = some '\r'.toUInt8 then line.dropLast else line
    String.fromUTF8? ⟨line.toArray⟩

/-- The environment after the lines of a file.  A name refers to a variable of the
environment or else to an earlier line. -/
def extendLines (environment : Environment) (earlier : List (String × String)) :
    List (Option String) → Environment
  | [] => environment
  | none :: _ => environment
  | some line :: rest =>
      let valueOf := fun name =>
        ((environment.get? name).or (earlier.lookup name)).getD ""
      match readLine valueOf line with
      | .nothing => extendLines environment earlier rest
      | .variable name value =>
          extendLines (environment.setDefault name value) ((name, value) :: earlier) rest
      | .faulty => environment

def extend (environment : Environment) (content : ByteArray) : Environment :=
  extendLines environment [] (lines content)

end TagSelection.EnvironmentFile
