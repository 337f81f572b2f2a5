import TagSelection.Document.Fault
import TagSelection.Json.Skip

/-!
# Reading JSON

A document is decoded while it is read, from left to right, so of two faults the one
that comes first in the text is reported.  A reader takes the text from its position
on and gives the value together with the text after it.
-/

namespace TagSelection.Json

open Document (Found Wanted DataFault)

abbrev Outcome : Type → Type := Except Document.Fault

/-- A way to read a value at the front of a text; the text after it is kept. -/
abbrev Reader (α : Type) : Type := List Char → Outcome (α × List Char)

def malformed : Document.Fault := .malformed .json

/-- A reading that fails only where the text breaks the rules of the format. -/
def strict {α : Type} (read : Option α) : Outcome α :=
  match read with
  | some value => .ok value
  | none => .error malformed

/-- The value at the front of a text, as far as it is needed to name it: brackets
are told by their first character, any other value is read to its end. -/
def found? (characters : List Char) : Option Found :=
  match skipSpace characters with
  | 'n' :: rest => (afterWord? "ull" rest).map fun _ => .null
  | 't' :: rest => (afterWord? "rue" rest).map fun _ => .boolean true
  | 'f' :: rest => (afterWord? "alse" rest).map fun _ => .boolean false
  | '"' :: rest => (readQuoted "" rest).map fun (value, _) => .text value
  | '[' :: _ => some .sequence
  | '\x7b' :: _ => some .map
  | rest => do
      let (numeral, _) ← Numeral.read rest
      match ← Number.ofNumeral numeral with
      | .integer value => some (.integer value)
      | .float value => some (.floatingPoint (Decimal.floatText floatStyle value))

/-- The fault of a text that starts with another value than the wanted one. -/
def unwanted (wanted : Wanted) (characters : List Char) : Document.Fault :=
  match found? characters with
  | some found => .data (.wrongType found wanted)
  | none => malformed

def readText (characters : List Char) : Outcome (String × List Char) :=
  match skipSpace characters with
  | '"' :: rest => strict (readQuoted "" rest)
  | rest => .error (unwanted .text rest)

def readFlag (characters : List Char) : Outcome (Bool × List Char) :=
  match skipSpace characters with
  | 't' :: rest => (strict (afterWord? "rue" rest)).map (true, ·)
  | 'f' :: rest => (strict (afterWord? "alse" rest)).map (false, ·)
  | rest => .error (unwanted .flag rest)

/-- Read the elements of an array after its first one, at most `fuel` of them. -/
def readMore {α : Type} (element : Reader α) :
    (fuel : Nat) → List Char → Outcome (List α × List Char)
  | 0, _ => .error malformed
  | fuel + 1, characters =>
      match skipSpace characters with
      | ']' :: rest => .ok ([], rest)
      | ',' :: rest => do
          let (value, rest) ← element rest
          let (values, rest) ← readMore element fuel rest
          .ok (value :: values, rest)
      | _ => .error malformed

def readElements {α : Type} (element : Reader α) (characters : List Char) :
    Outcome (List α × List Char) :=
  match skipSpace characters with
  | ']' :: rest => .ok ([], rest)
  | first => do
      let (value, rest) ← element first
      -- Every further element takes a comma, so the fuel does not run out before the text.
      let (values, rest) ← readMore element (rest.length + 1) rest
      .ok (value :: values, rest)

/-- Read an array inside which `levels` further brackets may be open; none may be
opened at level zero. -/
def readArray {α : Type} (wanted : Wanted) (levels : Nat) (element : Reader α)
    (characters : List Char) : Outcome (List α × List Char) :=
  match skipSpace characters with
  | '[' :: rest => if levels = 0 then .error malformed else readElements element rest
  | rest => .error (unwanted wanted rest)

/-- The text of the next element of an array, or nothing if the array ends. -/
def nextElement? (isFirst : Bool) (characters : List Char) :
    Outcome (Option (List Char)) :=
  match skipSpace characters with
  | [] => .error malformed
  | ']' :: _ => .ok none
  | ',' :: rest =>
      -- In front of the first element a comma is left to the reader of that element.
      if isFirst then .ok (some (',' :: rest))
      else
        match skipSpace rest with
        | [] => .error malformed
        | ']' :: _ => .error malformed
        | rest => .ok (some rest)
  | rest => if isFirst then .ok (some rest) else .error malformed

/-- Read an element of an array that may end before it. -/
def readOptional {α : Type} (absent : α) (element : Reader α)
    (characters : List Char) : Outcome (α × List Char) := do
  match ← nextElement? false characters with
  | some rest => element rest
  | none => .ok (absent, characters)

def closeArray (characters : List Char) : Outcome (List Char) :=
  match skipSpace characters with
  | ']' :: rest => .ok rest
  | _ => .error malformed

def afterColon (characters : List Char) : Outcome (List Char) :=
  match skipSpace characters with
  | ':' :: rest => .ok rest
  | _ => .error malformed

/-- Read the value of a field of the given name, unless the field has one already. -/
def readField {α : Type} (name : String) (present : Option α)
    (value : Reader α) (characters : List Char) : Outcome (Option α × List Char) :=
  if present.isSome then .error (.data (.duplicateField name))
  else do
    let rest ← afterColon characters
    let (value, rest) ← value rest
    .ok (some value, rest)

def ignoreField (characters : List Char) : Outcome (List Char) := do
  let rest ← afterColon characters
  strict (skipValue rest)

/-- Read the fields of an object one after another, at most `fuel` of them; the text
starts at the name of a field. -/
def readFields {σ : Type} (field : σ → String → Reader σ) :
    (fuel : Nat) → σ → List Char → Outcome (σ × List Char)
  | 0, _, _ => .error malformed
  | fuel + 1, state, characters =>
      match skipSpace characters with
      | '"' :: rest => do
          let (name, rest) ← strict (readQuoted "" rest)
          let (state, rest) ← field state name rest
          match skipSpace rest with
          | '\x7d' :: rest => .ok (state, rest)
          | ',' :: rest => readFields field fuel state rest
          | _ => .error malformed
      | _ => .error malformed

def readObject {σ : Type} (field : σ → String → Reader σ) (initial : σ)
    (characters : List Char) : Outcome (σ × List Char) :=
  match skipSpace characters with
  | '\x7d' :: rest => .ok (initial, rest)
  | rest => readFields field (rest.length + 1) initial rest

end TagSelection.Json
