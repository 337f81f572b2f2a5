import TagSelection.Text.HexDigit

/-!
# TOML keys and strings

Blanks, comments, keys and the four kinds of strings.  Every reader takes the text
from its position on and gives what it read together with the text after it.
-/

namespace TagSelection.Toml

open Text (hexValue?)

def isWhite (c : Char) : Bool := c == ' ' || c == '\t'

def skipWhite (characters : List Char) : List Char := characters.dropWhile isWhite

def isCommentChar (c : Char) : Bool :=
  c == '\t' || (0x20 ≤ c.toNat && c.toNat ≤ 0x7E) || 0x80 ≤ c.toNat

def afterNewline? : List Char → Option (List Char)
  | '\n' :: rest => some rest
  | '\r' :: '\n' :: rest => some rest
  | _ => none

/-- The text after the end of a line, which may hold blanks and a comment; the last
line needs no line end. -/
def endLine (characters : List Char) : Option (List Char) :=
  let rest := match skipWhite characters with
    | '#' :: rest => rest.dropWhile isCommentChar
    | rest => rest
  if rest.isEmpty then some [] else afterNewline? rest

/-- The text after blanks, comments and line ends; `inComment` tells whether the text
starts inside a comment. -/
def skipLines (inComment : Bool) : List Char → List Char
  | '\n' :: rest => skipLines false rest
  | '\r' :: '\n' :: rest => skipLines false rest
  | c :: rest =>
      if inComment then if isCommentChar c then skipLines true rest else c :: rest
      else if isWhite c then skipLines false rest
      else if c == '#' then skipLines true rest
      else c :: rest
  | [] => []

/-- Whether the character may stand as it is in a string that takes escapes. -/
def isBasicChar (c : Char) : Bool :=
  isCommentChar c && c != '"' && c != '\\'

def isLiteralChar (c : Char) : Bool := isCommentChar c && c != '\''

def ofHex? (digits : List Char) : Option Char := do
  let values ← digits.mapM hexValue?
  let code := values.foldl (fun code value => code * 16 + value) 0
  if code.isValidChar then some (Char.ofNat code) else none

def unescaped? : Char → Option Char
  | 'b' => some '\x08'
  | 'f' => some '\x0c'
  | 'n' => some '\n'
  | 'r' => some '\r'
  | 't' => some '\t'
  | '"' => some '"'
  | '\\' => some '\\'
  | _ => none

def readBasic (collected : String) : List Char → Option (String × List Char)
  | '"' :: rest => some (collected, rest)
  | '\\' :: 'u' :: a :: b :: c :: d :: rest => do
      let read ← ofHex? [a, b, c, d]
      readBasic (collected.push read) rest
  | '\\' :: 'U' :: a :: b :: c :: d :: e :: f :: g :: h :: rest => do
      let read ← ofHex? [a, b, c, d, e, f, g, h]
      readBasic (collected.push read) rest
  | '\\' :: c :: rest => do
      let read ← unescaped? c
      readBasic (collected.push read) rest
  | c :: rest => if isBasicChar c then readBasic (collected.push c) rest else none
  | [] => none

def readLiteral (characters : List Char) : Option (String × List Char) :=
  match characters.dropWhile isLiteralChar with
  | '\'' :: rest => some (String.ofList (characters.takeWhile isLiteralChar), rest)
  | _ => none

def dropNewline (characters : List Char) : List Char :=
  (afterNewline? characters).getD characters

/-- Up to two quotes may stand right before the closing quotes of a string; they
belong to it.  The text starts after the first three quotes in a row. -/
def closeQuotes (quote : Char) (collected : String) (characters : List Char) :
    String × List Char :=
  match characters with
  | first :: second :: rest =>
      if first = quote && second = quote then ((collected.push quote).push quote, rest)
      else if first = quote then (collected.push quote, second :: rest)
      else (collected, characters)
  | [first] =>
      if first = quote then (collected.push quote, []) else (collected, characters)
  | [] => (collected, [])

/-- Where a reader stands in a string of several lines that takes escapes. -/
inductive Place where
  | inside
  /-- Behind a backslash that ends a line. -/
  | beforeLineEnd
  /-- In the white space that such a backslash removes. -/
  | folded
  deriving DecidableEq, Repr

def readLongBasic (collected : String) : Place → List Char →
    Option (String × List Char)
  | .beforeLineEnd, ' ' :: rest => readLongBasic collected .beforeLineEnd rest
  | .beforeLineEnd, '\t' :: rest => readLongBasic collected .beforeLineEnd rest
  | .beforeLineEnd, '\n' :: rest => readLongBasic collected .folded rest
  | .beforeLineEnd, '\r' :: '\n' :: rest => readLongBasic collected .folded rest
  | .beforeLineEnd, _ => none
  | .folded, ' ' :: rest => readLongBasic collected .folded rest
  | .folded, '\t' :: rest => readLongBasic collected .folded rest
  | .folded, '\n' :: rest => readLongBasic collected .folded rest
  | .folded, '\r' :: '\n' :: rest => readLongBasic collected .folded rest
  -- Whatever else stands behind the removed white space is read as inside the string.
  | _, '"' :: '"' :: '"' :: rest => some (closeQuotes '"' collected rest)
  | _, '"' :: rest => readLongBasic (collected.push '"') .inside rest
  | _, '\n' :: rest => readLongBasic (collected.push '\n') .inside rest
  | _, '\r' :: '\n' :: rest => readLongBasic (collected.push '\n') .inside rest
  | _, '\\' :: 'u' :: a :: b :: c :: d :: rest => do
      let read ← ofHex? [a, b, c, d]
      readLongBasic (collected.push read) .inside rest
  | _, '\\' :: 'U' :: a :: b :: c :: d :: e :: f :: g :: h :: rest => do
      let read ← ofHex? [a, b, c, d, e, f, g, h]
      readLongBasic (collected.push read) .inside rest
  | _, '\\' :: ' ' :: rest => readLongBasic collected .beforeLineEnd rest
  | _, '\\' :: '\t' :: rest => readLongBasic collected .beforeLineEnd rest
  | _, '\\' :: '\n' :: rest => readLongBasic collected .folded rest
  | _, '\\' :: '\r' :: '\n' :: rest => readLongBasic collected .folded rest
  | _, '\\' :: c :: rest => do
      let read ← unescaped? c
      readLongBasic (collected.push read) .inside rest
  | _, c :: rest =>
      if isBasicChar c then readLongBasic (collected.push c) .inside rest else none
  | _, [] => none

def readLongLiteral (collected : String) : List Char → Option (String × List Char)
  | '\'' :: '\'' :: '\'' :: rest => some (closeQuotes '\'' collected rest)
  | '\n' :: rest => readLongLiteral (collected.push '\n') rest
  | '\r' :: '\n' :: rest => readLongLiteral (collected.push '\n') rest
  | c :: rest =>
      if isCommentChar c then readLongLiteral (collected.push c) rest else none
  | [] => none

def readString : List Char → Option (String × List Char)
  | '"' :: '"' :: '"' :: rest => readLongBasic "" .inside (dropNewline rest)
  | '"' :: rest => readBasic "" rest
  | '\'' :: '\'' :: '\'' :: rest => readLongLiteral "" (dropNewline rest)
  | '\'' :: rest => readLiteral rest
  | _ => none

def isBareKeyChar (c : Char) : Bool := c.isAlphanum || c == '-' || c == '_'

def readKeyPart : List Char → Option (String × List Char)
  | '"' :: rest => readBasic "" rest
  | '\'' :: rest => readLiteral rest
  | characters =>
      let name := characters.takeWhile isBareKeyChar
      if name.isEmpty then none
      else some (String.ofList name, characters.dropWhile isBareKeyChar)

/-- The greatest number of parts of a key. -/
def maxKeyParts : Nat := 79

def readKeyParts : (count : Nat) → List Char → Option (List String × List Char)
  | 0, _ => none
  | count + 1, characters => do
      let (part, rest) ← readKeyPart (skipWhite characters)
      match skipWhite rest with
      | '.' :: rest => do
          let (parts, rest) ← readKeyParts count rest
          some (part :: parts, rest)
      | rest => some ([part], rest)

/-- Read a key: the parts that lead to a table, and the name in that table. -/
def readKey (characters : List Char) : Option ((List String × String) × List Char) := do
  let (parts, rest) ← readKeyParts maxKeyParts characters
  let name ← parts.getLast?
  some ((parts.dropLast, name), rest)

end TagSelection.Toml
