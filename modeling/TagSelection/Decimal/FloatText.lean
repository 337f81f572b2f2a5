import TagSelection.Decimal.Shortest

/-!
# The text of floating-point numbers

A floating-point number is shown by its shortest decimal.  A style says up to which
magnitudes the decimal is written out; beyond them it has an exponent.
-/

namespace TagSelection.Decimal

/-- How a format shows floating-point numbers. -/
structure FloatStyle where
  /-- Which of two equally near decimals is shown. -/
  tie : Tie
  /-- The greatest count of digits before the point that is written out; without a
  limit every number is written out. -/
  longest : Option Int := none
  /-- The greatest count of zeros right after the point that is written out. -/
  mostZeros : Int := 4
  deriving Repr

def zeros (count : Int) : String := String.ofList (List.replicate count.toNat '0')

/-- A decimal with all its places; there is at least one after the point. -/
def Scaled.positional (decimal : Scaled) : String :=
  let digits := toString decimal.digits
  let whole : Int := digits.length + decimal.exponent
  if 0 ≤ decimal.exponent then digits ++ zeros decimal.exponent ++ ".0"
  else if 0 < whole then
    String.ofList (digits.toList.take whole.toNat) ++ "." ++
      String.ofList (digits.toList.drop whole.toNat)
  else "0." ++ zeros (-whole) ++ digits

def signed (value : Int) : String :=
  if 0 ≤ value then "+" ++ toString value else toString value

def Scaled.scientific (decimal : Scaled) : String :=
  let digits := toString decimal.digits
  let rest := digits.toList.drop 1
  let fraction := if rest.isEmpty then "" else "." ++ String.ofList rest
  String.ofList (digits.toList.take 1) ++ fraction ++ "e" ++
    signed ((digits.length : Int) + decimal.exponent - 1)

def floatText (style : FloatStyle) (value : Float) : String :=
  if value.isNaN then "NaN"
  else
    let sign := if value.toBits >>> 63 == 1 then "-" else ""
    if value.isInf then sign ++ "inf"
    else if value == 0 then sign ++ "0.0"
    else
      let decimal := (Binary.ofBits value.toBits).shortest style.tie
      let whole : Int := (toString decimal.digits).length + decimal.exponent
      let written := match style.longest with
        | none => true
        | some longest => decide (-style.mostZeros ≤ whole) && decide (whole ≤ longest)
      sign ++ if written then decimal.positional else decimal.scientific

/-- The number nearest to `digits * 10 ^ exponent`. -/
def nearest (digits : Nat) (exponent : Int) : Float :=
  let magnitude : Int := (toString digits).length + exponent
  -- Far outside of the double format the powers need not be computed.
  if digits = 0 || magnitude < -400 then 0
  else if magnitude > 400 then 1 / 0
  else Float.ofScientific digits (decide (exponent < 0)) exponent.natAbs

end TagSelection.Decimal
