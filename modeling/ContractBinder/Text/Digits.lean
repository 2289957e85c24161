/-!
Digits and the numbers that they spell.
-/

namespace ContractBinder.Text

def digitValue (c : Char) : Nat :=
  c.toNat - 0x30

/-- The value of a hexadecimal digit of either case. -/
def hexValue? (c : Char) : Option Nat :=
  if c.isDigit then some (digitValue c)
  else if 'a' ≤ c && c ≤ 'f' then some (c.toNat - 0x57)
  else if 'A' ≤ c && c ≤ 'F' then some (c.toNat - 0x37)
  else none

/-- The number that digits spell in a base, the highest first. -/
def numberOfDigits (base : Nat) (digits : List Nat) : Nat :=
  digits.foldl (fun value digit => base * value + digit) 0

def decimalValue (digits : List Char) : Nat :=
  numberOfDigits 10 (digits.map digitValue)

/-- The number that hexadecimal digits spell, if all of them are such. -/
def hexNumber? (digits : List Char) : Option Nat :=
  (digits.mapM hexValue?).map (numberOfDigits 16)

end ContractBinder.Text
