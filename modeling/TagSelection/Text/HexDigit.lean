namespace TagSelection.Text

/-- The value of a digit in base sixteen; letters may have either case. -/
def hexValue? (c : Char) : Option Nat :=
  if '0' ≤ c && c ≤ '9' then some (c.toNat - '0'.toNat)
  else if 'a' ≤ c && c ≤ 'f' then some (c.toNat - 'a'.toNat + 10)
  else if 'A' ≤ c && c ≤ 'F' then some (c.toNat - 'A'.toNat + 10)
  else none

def hexDigits (value : Nat) : String :=
  String.ofList (Nat.toDigits 16 value)

end TagSelection.Text
