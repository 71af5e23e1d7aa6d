/-! # Ranges of code points

A character class given by its ranges, both ends included, in increasing order. -/

namespace HouseRules.Text

/-- A set of characters as ranges of code points. -/
abbrev Ranges := List (Nat × Nat)

/-- The character lies in one of the ranges. -/
def Ranges.contains (rs : Ranges) (c : Char) : Bool :=
  rs.any fun (lo, hi) => lo ≤ c.toNat && c.toNat ≤ hi

end HouseRules.Text
