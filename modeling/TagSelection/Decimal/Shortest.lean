/-!
# Shortest decimals

A finite floating-point number stands for every real number that rounds to it.  Its
shortest decimal is the one with the fewest digits among these real numbers, and of
several such decimals the nearest to the number itself.  All arithmetic is exact.
-/

namespace TagSelection.Decimal

/-- The positive number `significand * 2 ^ exponent` of the double format. -/
structure Binary where
  significand : Nat
  exponent : Int
  /-- Whether the next number below is only half as far away as the one above. -/
  narrowBelow : Bool
  deriving Repr

/-- The number `digits * 10 ^ exponent`. -/
structure Scaled where
  digits : Nat
  exponent : Int
  deriving DecidableEq, Repr

inductive Tie where
  | toEven
  | up
  deriving DecidableEq, Repr

/-- A power of two; one for a negative exponent. -/
def twoTo (exponent : Int) : Nat := Nat.pow 2 exponent.toNat

def tenTo (exponent : Int) : Nat := Nat.pow 10 exponent.toNat

/-- The number with the given bits; the sign does not count. -/
def Binary.ofBits (bits : UInt64) : Binary :=
  let exponent := ((bits >>> 52) &&& 0x7FF).toNat
  let fraction := (bits &&& 0xFFFFFFFFFFFFF).toNat
  if exponent = 0 then ⟨fraction, -1074, false⟩
  else ⟨0x10000000000000 + fraction, (exponent : Int) - 1075, fraction == 0 && exponent > 1⟩

/-- Whether `left * 10 ^ power` is less than or equal to `right * 2 ^ exponent`. -/
def scaledLe (left : Nat) (power : Int) (right : Nat) (exponent : Int) : Bool :=
  left * tenTo power * twoTo (-exponent) ≤ right * twoTo exponent * tenTo (-power)

def binaryLe (left : Nat) (exponent : Int) (right : Nat) (power : Int) : Bool :=
  left * twoTo exponent * tenTo (-power) ≤ right * tenTo power * twoTo (-exponent)

namespace Binary

/-- Whether a decimal is among the real numbers that round to the number.  The
halfway points to the neighbours belong to the number with an even significand. -/
def readsBack (number : Binary) (decimal : Scaled) : Bool :=
  -- Counted in quarters of the last place, both halfway points are whole numbers.
  let low := if number.narrowBelow then 4 * number.significand - 1
    else 4 * number.significand - 2
  let high := 4 * number.significand + 2
  let quarter := number.exponent - 2
  if number.significand % 2 = 0 then
    binaryLe low quarter decimal.digits decimal.exponent &&
      scaledLe decimal.digits decimal.exponent high quarter
  else
    !scaledLe decimal.digits decimal.exponent low quarter &&
      !binaryLe high quarter decimal.digits decimal.exponent

/-- The number of digits before the decimal point; negative if zeros follow it. -/
def scale (number : Binary) : Int :=
  -- No number of the double format lies outside of these powers.
  let powers := (List.range 640).map fun (index : Nat) => (index : Int) - 325
  (powers.find? fun power =>
    !scaledLe 1 power number.significand number.exponent).getD 0

/-- The greatest multiple of the power of ten that does not exceed the number, as a
count of that power. -/
def floorAt (number : Binary) (power : Int) : Nat :=
  (number.significand * twoTo number.exponent * tenTo (-power)) /
    (tenTo power * twoTo (-number.exponent))

/-- The decimal with the given power of ten that stands for the number, if there is
one; the nearer of two. -/
def decimalAt? (number : Binary) (tie : Tie) (power : Int) : Option Scaled :=
  let below := number.floorAt power
  let lower : Scaled := ⟨below, power⟩
  let upper : Scaled := ⟨below + 1, power⟩
  match number.readsBack lower, number.readsBack upper with
  | false, false => none
  | true, false => some lower
  | false, true => some upper
  | true, true =>
      let twice := 2 * number.significand
      let middle := 2 * below + 1
      let reachesMiddle := scaledLe middle power twice number.exponent
      let passesMiddle := reachesMiddle && !binaryLe twice number.exponent middle power
      if passesMiddle then some upper
      else if reachesMiddle && (tie == .up || below % 2 == 1) then some upper
      else some lower

def exact (number : Binary) : Scaled :=
  if 0 ≤ number.exponent then ⟨number.significand * twoTo number.exponent, 0⟩
  else ⟨number.significand * Nat.pow 5 (-number.exponent).toNat, number.exponent⟩

end Binary

/-- The same decimal without its last zeros, of which at most `count` are taken. -/
def Scaled.stripZeros (decimal : Scaled) : (count : Nat) → Scaled
  | 0 => decimal
  | count + 1 =>
      if decimal.digits != 0 && decimal.digits % 10 == 0 then
        stripZeros ⟨decimal.digits / 10, decimal.exponent + 1⟩ count
      else decimal

/-- The shortest decimal that stands for the number. -/
def Binary.shortest (number : Binary) (tie : Tie) : Scaled :=
  let scale := number.scale
  -- Seventeen digits are enough to tell any two numbers apart.
  let counts := (List.range 17).map fun (index : Nat) => (index : Int) + 1
  let found := counts.findSome? fun count => number.decimalAt? tie (scale - count)
  (found.getD number.exact).stripZeros 400

end TagSelection.Decimal
