import TagSelection.Decimal.FloatText

/-!
# JSON numbers

A numeral is read by the grammar alone.  Its value is an integer if it has neither
a fraction nor an exponent and fits into 64 bits; otherwise it is a floating-point
number, computed from as many digits as fit into 64 bits.
-/

namespace TagSelection.Json

structure Numeral where
  negative : Bool
  whole : List Char
  fraction : List Char := []
  /-- Whether the exponent is negative, and its digits. -/
  exponent : Option (Bool × List Char) := none
  deriving DecidableEq, Repr

namespace Numeral

def spanDigits (characters : List Char) : List Char × List Char :=
  (characters.takeWhile Char.isDigit, characters.dropWhile Char.isDigit)

def digits? (characters : List Char) : Option (List Char × List Char) :=
  match spanDigits characters with
  | ([], _) => none
  | found => some found

/-- The digits before the point: a zero stands there only alone. -/
def whole? : List Char → Option (List Char × List Char)
  | '0' :: rest => if (rest.head?.any Char.isDigit) then none else some (['0'], rest)
  | characters => digits? characters

def fraction? : List Char → Option (List Char × List Char)
  | '.' :: rest => digits? rest
  | characters => some ([], characters)

def exponent? (characters : List Char) :
    Option (Option (Bool × List Char) × List Char) :=
  let signed : List Char → Option (Option (Bool × List Char) × List Char)
    | '+' :: rest => (digits? rest).map fun (digits, rest) => (some (false, digits), rest)
    | '-' :: rest => (digits? rest).map fun (digits, rest) => (some (true, digits), rest)
    | rest => (digits? rest).map fun (digits, rest) => (some (false, digits), rest)
  match characters with
  | 'e' :: rest => signed rest
  | 'E' :: rest => signed rest
  | rest => some (none, rest)

def read (characters : List Char) : Option (Numeral × List Char) := do
  let (negative, unsigned) := match characters with
    | '-' :: rest => (true, rest)
    | rest => (false, rest)
  let (whole, rest) ← whole? unsigned
  let (fraction, rest) ← fraction? rest
  let (exponent, rest) ← exponent? rest
  some ({ negative, whole, fraction, exponent }, rest)

end Numeral

inductive Number where
  | integer (value : Int)
  | float (value : Float)

def floatStyle : Decimal.FloatStyle := { tie := .toEven, longest := some 16 }

namespace Number

/-- The number that is at most to be reached by taking in digits. -/
def limit : Nat := 0xFFFFFFFFFFFFFFFF

/-- Take in digits as long as the number stays within 64 bits; the digits that are
left over come with it. -/
def absorb (value : Nat) : List Char → Nat × List Char
  | [] => (value, [])
  | digit :: rest =>
      let next := value * 10 + (digit.toNat - '0'.toNat)
      if next > limit then (value, digit :: rest) else absorb next rest

def ofDigits (digits : List Char) : Nat :=
  digits.foldl (fun value digit => value * 10 + (digit.toNat - '0'.toNat)) 0

/-- `value * 10 ^ exponent` by one multiplication or division for each 308 places;
nothing if the result is too great. -/
def scaleBy (value : Float) (exponent : Int) : (steps : Nat) → Option Float
  | 0 => some value
  | steps + 1 =>
      if exponent.natAbs ≤ 308 then
        if 0 ≤ exponent then
          let scaled := value * Float.ofScientific 1 false exponent.natAbs
          if scaled.isInf then none else some scaled
        else some (value / Float.ofScientific 1 false exponent.natAbs)
      else if value == 0 then some value
      else if 0 ≤ exponent then none
      else scaleBy (value / Float.ofScientific 1 false 308) (exponent + 308) steps

/-- The floating-point number of a numeral; nothing if it is too great. -/
def floatOf (numeral : Numeral) : Option Float := do
  let (leading, dropped) := absorb 0 numeral.whole
  let (significand, unused) := absorb leading numeral.fraction
  -- Digits left over in front of the point raise the exponent, those taken in behind it
  -- lower it.
  let point : Int := dropped.length - (numeral.fraction.length - unused.length : Nat)
  let exponent : Int := match numeral.exponent with
    | none => point
    | some (true, digits) => point - ofDigits digits
    | some (false, digits) => point + ofDigits digits
  let magnitude ← scaleBy significand.toUInt64.toFloat exponent 4
  some (if numeral.negative then -magnitude else magnitude)

def ofNumeral (numeral : Numeral) : Option Number :=
  let (value, unused) := absorb 0 numeral.whole
  if unused.isEmpty && numeral.fraction.isEmpty && numeral.exponent.isNone then
    -- Minus zero is a floating-point number.
    if !numeral.negative then some (.integer value)
    else if 0 < value && value ≤ 0x8000000000000000 then some (.integer (-value))
    else (floatOf numeral).map .float
  else (floatOf numeral).map .float

end Number

end TagSelection.Json
