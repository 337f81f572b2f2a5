import TagSelection.Text.HexDigit

/-!
# JSON strings

Inside its quotes a string writes the quote, the backslash and the control
characters with a backslash and every other character as it is.  Reading also
takes the escapes that writing does not use; a character beyond the first 65536
code points may be given as a pair of surrogate code units.
-/

namespace TagSelection.Json

open Text (hexValue?)

def escapedChar (c : Char) : List Char :=
  match c with
  | '"' => ['\\', '"']
  | '\\' => ['\\', '\\']
  | '\n' => ['\\', 'n']
  | '\r' => ['\\', 'r']
  | '\t' => ['\\', 't']
  | '\x08' => ['\\', 'b']
  | '\x0c' => ['\\', 'f']
  | _ =>
      if c.toNat < 0x20 then
        ['\\', 'u', '0', '0', Nat.digitChar (c.toNat / 16), Nat.digitChar (c.toNat % 16)]
      else [c]

def quote (text : String) : String :=
  "\"" ++ String.ofList (text.toList.flatMap escapedChar) ++ "\""

/-- The code unit that four digits in base sixteen give. -/
def codeUnit? (a b c d : Char) : Option Nat := do
  let a ← hexValue? a
  let b ← hexValue? b
  let c ← hexValue? c
  let d ← hexValue? d
  some (((a * 16 + b) * 16 + c) * 16 + d)

/-- Whether a code unit is the first of a surrogate pair. -/
def isHighSurrogate (unit : Nat) : Bool := 0xD800 ≤ unit && unit ≤ 0xDBFF

def isLowSurrogate (unit : Nat) : Bool := 0xDC00 ≤ unit && unit ≤ 0xDFFF

def ofSurrogates (high low : Nat) : Char :=
  Char.ofNat (0x10000 + (high - 0xD800) * 0x400 + (low - 0xDC00))

def unescaped? : Char → Option Char
  | '"' => some '"'
  | '\\' => some '\\'
  | '/' => some '/'
  | 'b' => some '\x08'
  | 'f' => some '\x0c'
  | 'n' => some '\n'
  | 'r' => some '\r'
  | 't' => some '\t'
  | _ => none

/-- The rest of a string whose opening quote has been read, and what follows it. -/
def readQuoted (collected : String) : List Char → Option (String × List Char)
  | [] => none
  | '"' :: rest => some (collected, rest)
  | '\\' :: 'u' :: a :: b :: c :: d :: rest =>
      match codeUnit? a b c d with
      | none => none
      | some unit =>
          -- A second half may not come first, and a first half needs its second right
          -- behind it.
          if isLowSurrogate unit then none
          else if isHighSurrogate unit then
            match rest with
            | '\\' :: 'u' :: e :: f :: g :: h :: rest =>
                match codeUnit? e f g h with
                | none => none
                | some low =>
                    if isLowSurrogate low then
                      readQuoted (collected.push (ofSurrogates unit low)) rest
                    else none
            | _ => none
          else readQuoted (collected.push (Char.ofNat unit)) rest
  | '\\' :: c :: rest =>
      match unescaped? c with
      | none => none
      | some c => readQuoted (collected.push c) rest
  | c :: rest => if c.toNat < 0x20 then none else readQuoted (collected.push c) rest

/-- What follows a string whose opening quote has been read.  The string is not put
together, so surrogate code units may stand alone in it. -/
def skipQuoted : List Char → Option (List Char)
  | [] => none
  | '"' :: rest => some rest
  | '\\' :: 'u' :: a :: b :: c :: d :: rest =>
      if (codeUnit? a b c d).isSome then skipQuoted rest else none
  | '\\' :: c :: rest => if (unescaped? c).isSome then skipQuoted rest else none
  | c :: rest => if c.toNat < 0x20 then none else skipQuoted rest

end TagSelection.Json
