/-! # Numbers in digits

Digits write numbers in some base. There is a limit to the number of decimal digits that are read as
a number. -/

namespace HouseRules.Text

/-- The value of a digit, which may be a letter. -/
def digitValue (c : Char) : Nat :=
  if c.isDigit then c.toNat - '0'.toNat
  else if 'a' ≤ c && c ≤ 'z' then c.toNat - 'a'.toNat + 10
  else c.toNat - 'A'.toNat + 10

/-- The number that digits write. -/
def numberOf (base : Nat) (cs : List Char) : Nat :=
  cs.foldl (fun n c => base * n + digitValue c) 0

/-- A digit of base 16. -/
def isHex (c : Char) : Bool := c.isDigit || ('a' ≤ c && c ≤ 'f') || ('A' ≤ c && c ≤ 'F')

/-- A digit of base 8. -/
def isOctal (c : Char) : Bool := '0' ≤ c && c ≤ '7'

/-- The most decimal digits that are read as a number. -/
def maxDigits : Nat := 4300

/-- The wording of the error at too many decimal digits. -/
def tooManyDigits (count : Nat) : String :=
  s!"Exceeds the limit ({maxDigits} digits) for integer string conversion: value has {count} " ++
    "digits; use sys.set_int_max_str_digits() to increase the limit"

end HouseRules.Text
