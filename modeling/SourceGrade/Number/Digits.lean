set_option autoImplicit false

/-!
# Digits

The formats of documents write numbers with the ten digits of ASCII and, where the base is sixteen,
six letters of either case. An integer is neither read from more than `maxDigits` decimal digits nor
written with more.
-/

namespace SourceGrade.Number

/-- The largest number of decimal digits that an integer is read from or written with. -/
def maxDigits : Nat := 4300

/-- An ASCII digit. -/
def isAsciiDigit (c : Char) : Bool := '0' ≤ c && c ≤ '9'

/-- The value of a hexadecimal digit. -/
def hexValue? (c : Char) : Option Nat :=
  if '0' ≤ c ∧ c ≤ '9' then some (c.toNat - 48)
  else if 'a' ≤ c ∧ c ≤ 'f' then some (c.toNat - 87)
  else if 'A' ≤ c ∧ c ≤ 'F' then some (c.toNat - 55)
  else none

/-- The number that digits write in a base. A character that is no hexadecimal digit counts as
zero. -/
def valueInBase (base : Nat) (ds : List Char) : Nat :=
  ds.foldl (fun n c => base * n + (hexValue? c).getD 0) 0

/-- The number that ASCII digits write. -/
def digitsValue (ds : List Char) : Nat := valueInBase 10 ds

end SourceGrade.Number
