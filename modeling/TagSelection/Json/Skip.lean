import TagSelection.Json.Quoted
import TagSelection.Json.Numeral

/-!
# Values passed over

A value that nobody asks for is only checked against the grammar.  The brackets
that are open around the reading position are kept on a stack, so such a value may
be nested as deeply as it likes.
-/

namespace TagSelection.Json

def isSpace (c : Char) : Bool := c == ' ' || c == '\n' || c == '\t' || c == '\r'

def skipSpace (characters : List Char) : List Char := characters.dropWhile isSpace

def afterWord? (word : String) (characters : List Char) : Option (List Char) :=
  if word.toList.isPrefixOf characters then some (characters.drop word.length) else none

/-- The text after a name and a colon, where the name of a field is wanted. -/
def skipKey (characters : List Char) : Option (List Char) :=
  match skipSpace characters with
  | '"' :: rest => do
      let rest ← skipQuoted rest
      match skipSpace rest with
      | ':' :: rest => some rest
      | _ => none
  | _ => none

inductive Bracket where
  | square
  | curly
  deriving DecidableEq, Repr

/-- What is wanted next while values are passed over. -/
inductive Wish where
  | value
  | next
  deriving DecidableEq, Repr

/-- Pass over what is left of a value inside open brackets, innermost first, in at
most `fuel` steps; each step but the last takes a character. -/
def skipFrom : (fuel : Nat) → Wish → List Bracket → List Char → Option (List Char)
  | 0, _, _, _ => none
  | _ + 1, .next, [], characters => some characters
  | fuel + 1, .next, bracket :: outer, characters =>
      match bracket, skipSpace characters with
      | .square, ',' :: rest => skipFrom fuel .value (.square :: outer) rest
      | .square, ']' :: rest => skipFrom fuel .next outer rest
      | .curly, ',' :: rest => do
          let rest ← skipKey rest
          skipFrom fuel .value (.curly :: outer) rest
      | .curly, '\x7d' :: rest => skipFrom fuel .next outer rest
      | _, _ => none
  | fuel + 1, .value, outer, characters =>
      match skipSpace characters with
      | '"' :: rest => do
          let rest ← skipQuoted rest
          skipFrom fuel .next outer rest
      -- Empty brackets are told here, because behind a comma there must be a value.
      | '[' :: rest =>
          match skipSpace rest with
          | ']' :: rest => skipFrom fuel .next outer rest
          | rest => skipFrom fuel .value (.square :: outer) rest
      | '\x7b' :: rest =>
          match skipSpace rest with
          | '\x7d' :: rest => skipFrom fuel .next outer rest
          | rest => do
              let rest ← skipKey rest
              skipFrom fuel .value (.curly :: outer) rest
      | 'n' :: rest => do
          let rest ← afterWord? "ull" rest
          skipFrom fuel .next outer rest
      | 't' :: rest => do
          let rest ← afterWord? "rue" rest
          skipFrom fuel .next outer rest
      | 'f' :: rest => do
          let rest ← afterWord? "alse" rest
          skipFrom fuel .next outer rest
      | rest => do
          let (_, rest) ← Numeral.read rest
          skipFrom fuel .next outer rest

def skipValue (characters : List Char) : Option (List Char) :=
  skipFrom (characters.length + 1) .value [] characters

end TagSelection.Json
