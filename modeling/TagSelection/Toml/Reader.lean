import TagSelection.Toml.Scalar

/-!
# Reading TOML

A document is a sequence of lines: key-value lines, headers, and lines with nothing
but a comment.  It is read as a whole before anything is done with its data.
-/

namespace TagSelection.Toml

/-- The greatest depth of arrays and inline tables inside one another. -/
def maxLevels : Nat := 79

/-- Read the items of an array up to its closing bracket, at most `fuel` of them. -/
def readItems (item : List Char → Option (Node × List Char)) :
    (fuel : Nat) → List Char → Option (List Node × List Char)
  | 0, _ => none
  | fuel + 1, characters =>
      match skipLines false characters with
      | ']' :: rest => some ([], rest)
      | rest => do
          let (node, rest) ← item rest
          match skipLines false rest with
          | ']' :: rest => some ([node], rest)
          -- A comma may also stand behind the last item.
          | ',' :: rest => do
              let (nodes, rest) ← readItems item fuel rest
              some (node :: nodes, rest)
          | _ => none

def readKeyValue (item : List Char → Option (Node × List Char)) (entries : Entries)
    (characters : List Char) : Option (Entries × List Char) := do
  let ((path, name), rest) ← readKey characters
  match rest with
  | '=' :: rest => do
      let (node, rest) ← item (skipWhite rest)
      let entries ← entries.insertDotted name node path
      some (entries, rest)
  | _ => none

def readEntries (item : List Char → Option (Node × List Char)) :
    (fuel : Nat) → Entries → List Char → Option (Entries × List Char)
  | 0, _, _ => none
  | fuel + 1, entries, characters => do
      let (entries, rest) ← readKeyValue item entries characters
      match skipWhite rest with
      | '\x7d' :: rest => some (entries, rest)
      | ',' :: rest => readEntries item fuel entries rest
      | _ => none

/-- Read a value; arrays and inline tables may be nested up to `levels` deep. -/
def readValue : (levels : Nat) → List Char → Option (Node × List Char)
  | 0, characters =>
      match characters with
      | '[' :: _ => none
      | '\x7b' :: _ => none
      | _ => readFlat characters
  | levels + 1, characters =>
      match characters with
      | '[' :: rest => do
          let (items, rest) ← readItems (readValue levels) (rest.length + 1) rest
          some (.array items, rest)
      | '\x7b' :: rest =>
          match skipWhite rest with
          | '\x7d' :: rest => some (.table .inline [], rest)
          | rest => do
              let (entries, rest) ←
                readEntries (readValue levels) (rest.length + 1) [] rest
              some (.table .inline entries, rest)
      | _ => readFlat characters
where
  readFlat (characters : List Char) : Option (Node × List Char) :=
    match characters with
    | '"' :: _ => (readString characters).map fun (value, rest) => (.text value, rest)
    | '\'' :: _ => (readString characters).map fun (value, rest) => (.text value, rest)
    | _ => readScalar characters

/-- Read a header after its first bracket. -/
def readHeader (draft : Draft) (characters : List Char) : Option (Draft × List Char) :=
  match characters with
  | '[' :: rest => do
      let ((path, name), rest) ← readKey rest
      match rest with
      | ']' :: ']' :: rest => do
          let rest ← endLine rest
          let draft ← draft.startRepeated path name
          some (draft, rest)
      | _ => none
  | rest => do
      let ((path, name), rest) ← readKey rest
      match rest with
      | ']' :: rest => do
          let rest ← endLine rest
          let draft ← draft.startTable path name
          some (draft, rest)
      | _ => none

def readLine (draft : Draft) (characters : List Char) : Option (Draft × List Char) :=
  match characters with
  | '[' :: rest => readHeader draft rest
  | '#' :: _ => do
      let rest ← endLine characters
      some (draft, rest)
  | '\n' :: rest => some (draft, rest)
  | '\r' :: '\n' :: rest => some (draft, rest)
  | _ => do
      let (entries, rest) ← readKeyValue (readValue maxLevels) draft.entries characters
      let rest ← endLine rest
      some ({ draft with entries }, rest)

def readLines : (fuel : Nat) → Draft → List Char → Option Draft
  | 0, _, _ => none
  | fuel + 1, draft, characters =>
      match skipWhite characters with
      | [] => some draft
      | rest => do
          let (draft, rest) ← readLine draft rest
          readLines fuel draft rest

/-- The top-level entries of a document; nothing if it breaks the rules of the format.
A byte order mark may stand in front. -/
def readDocument (document : String) : Option Entries := do
  let characters := match document.toList with
    | '\uFEFF' :: rest => rest
    | characters => characters
  -- Every line takes a character at least.
  let draft ← readLines (characters.length + 1) {} characters
  draft.finish

end TagSelection.Toml
