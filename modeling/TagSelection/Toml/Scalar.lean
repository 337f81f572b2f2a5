import TagSelection.Decimal.FloatText
import TagSelection.Toml.Node
import TagSelection.Toml.Text

/-!
# TOML numbers, dates and truth values

Numbers may have underscores between their digits.  Integers must fit into 64 bits
with a sign.  Dates and times are checked against the calendar and the clock; their
value is not kept.
-/

namespace TagSelection.Toml

open Text (hexValue?)

/-- Digits of a class with single underscores between them, after at least one digit;
the underscores are left out. -/
def moreDigits (isDigit : Char → Bool) : List Char → Option (List Char × List Char)
  | '_' :: digit :: rest =>
      if isDigit digit then do
        let (digits, rest) ← moreDigits isDigit rest
        some (digit :: digits, rest)
      else none
  | c :: rest =>
      if isDigit c then do
        let (digits, rest) ← moreDigits isDigit rest
        some (c :: digits, rest)
      else if c == '_' then none
      else some ([], c :: rest)
  | [] => some ([], [])

def digits (isDigit : Char → Bool) : List Char → Option (List Char × List Char)
  | c :: rest =>
      if isDigit c then do
        let (digits, rest) ← moreDigits isDigit rest
        some (c :: digits, rest)
      else none
  | [] => none

def ofDigits (base : Nat) (digits : List Char) : Nat :=
  digits.foldl (fun value digit => value * base + (hexValue? digit).getD 0) 0

def isDigitOf (base : Nat) (c : Char) : Bool := (hexValue? c).any (· < base)

/-- An integer within 64 bits, one of which is the sign. -/
def integer? (value : Int) : Option Node :=
  if -0x8000000000000000 ≤ value && value < 0x8000000000000000 then
    some (.integer value)
  else none

/-- The digits of a decimal number before its point; a zero stands there alone. -/
def wholeDigits : List Char → Option (List Char × List Char)
  | '0' :: rest => some (['0'], rest)
  | characters => digits Char.isDigit characters

def exponent (characters : List Char) : Option (Int × List Char) :=
  match characters with
  | '+' :: rest => (digits Char.isDigit rest).map fun (digits, rest) =>
      ((ofDigits 10 digits : Int), rest)
  | '-' :: rest => (digits Char.isDigit rest).map fun (digits, rest) =>
      (-(ofDigits 10 digits : Int), rest)
  | rest => (digits Char.isDigit rest).map fun (digits, rest) =>
      ((ofDigits 10 digits : Int), rest)

/-- A floating-point number with its sign; positive infinity is out of range. -/
def float? (negative : Bool) (digits : List Char) (exponent : Int) : Option Node :=
  let magnitude := Decimal.nearest (ofDigits 10 digits) exponent
  if negative then some (.float (-magnitude))
  else if magnitude.isInf then none
  else some (.float magnitude)

def readExponent (negative : Bool) (whole fraction : List Char) (characters : List Char) :
    Option (Node × List Char) :=
  let finish (power : Int) (rest : List Char) : Option (Node × List Char) := do
    let node ← float? negative (whole ++ fraction) (power - fraction.length)
    some (node, rest)
  match characters with
  | 'e' :: rest => do
      let (power, rest) ← exponent rest
      finish power rest
  | 'E' :: rest => do
      let (power, rest) ← exponent rest
      finish power rest
  | rest => finish 0 rest

/-- A decimal number after its sign. -/
def readDecimal (negative : Bool) (characters : List Char) : Option (Node × List Char) := do
  let (whole, rest) ← wholeDigits characters
  match rest with
  | '.' :: rest => do
      let (fraction, rest) ← digits Char.isDigit rest
      readExponent negative whole fraction rest
  | 'e' :: _ => readExponent negative whole [] rest
  | 'E' :: _ => readExponent negative whole [] rest
  | rest => do
      let value : Int := ofDigits 10 whole
      let node ← integer? (if negative then -value else value)
      some (node, rest)

/-- A number in another base after its two leading characters. -/
def readBased (base : Nat) (characters : List Char) : Option (Node × List Char) := do
  let (digits, rest) ← digits (isDigitOf base) characters
  let node ← integer? (ofDigits base digits)
  some (node, rest)

def afterWord? (word : String) (characters : List Char) : Option (List Char) :=
  if word.toList.isPrefixOf characters then some (characters.drop word.length) else none

/-- Infinity or "not a number" after a sign. -/
def readSpecial (negative : Bool) (characters : List Char) : Option (Node × List Char) :=
  match characters with
  | 'i' :: _ => (afterWord? "inf" characters).map fun rest =>
      (.float (if negative then -(1 / 0) else 1 / 0), rest)
  | 'n' :: _ => (afterWord? "nan" characters).map fun rest => (.float (0 / 0), rest)
  | _ => none

def readSigned (negative : Bool) (characters : List Char) : Option (Node × List Char) :=
  match characters with
  | 'i' :: _ => readSpecial negative characters
  | 'n' :: _ => readSpecial negative characters
  | _ => readDecimal negative characters

/-! ## Dates and times -/

def fixedDigits (count : Nat) (characters : List Char) : Option (Nat × List Char) :=
  let front := characters.take count
  if front.length = count && front.all Char.isDigit then
    some (ofDigits 10 front, characters.drop count)
  else none

def afterChar? (wanted : Char) : List Char → Option (List Char)
  | c :: rest => if c = wanted then some rest else none
  | [] => none

def daysInMonth (year month : Nat) : Nat :=
  if month = 2 then
    if year % 4 = 0 && (year % 100 != 0 || year % 400 = 0) then 29 else 28
  else if month = 4 || month = 6 || month = 9 || month = 11 then 30
  else 31

def afterClock? (characters : List Char) : Option (List Char) := do
  let (hour, rest) ← fixedDigits 2 characters
  let rest ← afterChar? ':' rest
  let (minute, rest) ← fixedDigits 2 rest
  if hour ≤ 23 && minute ≤ 59 then some rest else none

def afterTime? (characters : List Char) : Option (List Char) := do
  let rest ← afterClock? characters
  let rest ← afterChar? ':' rest
  let (second, rest) ← fixedDigits 2 rest
  if second ≤ 60 then
    match rest with
    -- A point without a digit behind it is left in the text.
    | '.' :: c :: more => if c.isDigit then some (more.dropWhile Char.isDigit) else some rest
    | _ => some rest
  else none

def afterOffset? (characters : List Char) : Option (List Char) :=
  match characters with
  | 'Z' :: rest => some rest
  | 'z' :: rest => some rest
  | '+' :: rest => afterClock? rest
  | '-' :: rest => afterClock? rest
  | rest => some rest

def startsTime (characters : List Char) : Bool :=
  ((fixedDigits 2 characters).bind fun (_, rest) => afterChar? ':' rest).isSome

def startsDate (characters : List Char) : Bool :=
  ((fixedDigits 4 characters).bind fun (_, rest) => afterChar? '-' rest).isSome

/-- The text after a date and the time that may follow it. -/
def afterDate? (characters : List Char) : Option (List Char) := do
  let (year, rest) ← fixedDigits 4 characters
  let rest ← afterChar? '-' rest
  let (month, rest) ← fixedDigits 2 rest
  let rest ← afterChar? '-' rest
  let (day, rest) ← fixedDigits 2 rest
  if 1 ≤ month && month ≤ 12 && 1 ≤ day && day ≤ daysInMonth year month then
    match rest with
    | c :: time =>
        -- A blank behind a date separates nothing unless a time does follow.
        if (c == 'T' || c == 't' || c == ' ') && startsTime time then do
          let rest ← afterTime? time
          afterOffset? rest
        else some rest
    | [] => some []
  else none

def readUnsigned (characters : List Char) : Option (Node × List Char) :=
  if startsDate characters then (afterDate? characters).map (.moment, ·)
  else if startsTime characters then (afterTime? characters).map (.moment, ·)
  else
    match characters with
    | '0' :: 'x' :: rest => readBased 16 rest
    | '0' :: 'o' :: rest => readBased 8 rest
    | '0' :: 'b' :: rest => readBased 2 rest
    | rest => readDecimal false rest

/-- A value that is neither a string nor in brackets. -/
def readScalar (characters : List Char) : Option (Node × List Char) :=
  match characters with
  | '+' :: rest => readSigned false rest
  | '-' :: rest => readSigned true rest
  | 't' :: _ => (afterWord? "true" characters).map (.boolean true, ·)
  | 'f' :: _ => (afterWord? "false" characters).map (.boolean false, ·)
  | 'i' :: _ => readSpecial false characters
  | 'n' :: _ => readSpecial false characters
  | _ => readUnsigned characters

end TagSelection.Toml
