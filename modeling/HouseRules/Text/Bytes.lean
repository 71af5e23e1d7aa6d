/-! # Byte strings

Blobs, diffs and encoded sources are lists of bytes. Ranges into them are pairs of integers that
may lie outside the string: an offset below zero counts from the end, and every offset is clamped
to the string, so `slice` is total and always a contiguous part of its argument. -/

namespace HouseRules

/-- A byte string. -/
abbrev Bytes := List UInt8

namespace Bytes

/-- The line feed byte. -/
def newline : UInt8 := 0x0A

/-- The position that `i` names in a string of length `n`. -/
def position (n : Nat) (i : Int) : Nat :=
  if i < 0 then (n + i).toNat else min i.toNat n

/-- The bytes from `lo` up to, not including, `hi`. -/
def slice (b : Bytes) (lo hi : Int) : Bytes :=
  (b.take (position b.length hi)).drop (position b.length lo)

/-- The bytes of a text made of ASCII characters. -/
def ofAscii (s : String) : Bytes := s.toList.map fun c => c.toNat.toUInt8

/-- The text whose characters are the given bytes, read as code points. -/
def toAscii (b : Bytes) : String := String.ofList (b.map fun x => Char.ofNat x.toNat)

/-- One of the ASCII digits. -/
def isDigit (x : UInt8) : Bool := 0x30 ≤ x && x ≤ 0x39

/-- One of the lower-case hexadecimal digits. -/
def isHexDigit (x : UInt8) : Bool := isDigit x || (0x61 ≤ x && x ≤ 0x66)

/-- One of the octal digits. -/
def isOctalDigit (x : UInt8) : Bool := 0x30 ≤ x && x ≤ 0x37

/-- One of the ASCII white-space characters. -/
def isBlank (x : UInt8) : Bool := x == 0x20 || (0x09 ≤ x && x ≤ 0x0D)

/-- The number written by digits of base `base`, most significant first. -/
def number (base : Nat) (ds : Bytes) : Nat :=
  ds.foldl (fun n d => base * n + (d.toNat - 0x30)) 0

/-- The offset of the first byte of each line: zero, and every offset just after a line feed. -/
def lineStartsFrom (i : Nat) : Bytes → List Nat
  | [] => []
  | x :: r => if x = newline then (i + 1) :: lineStartsFrom (i + 1) r else lineStartsFrom (i + 1) r

/-- The offset of the first byte of each line. -/
def lineStarts (b : Bytes) : List Nat := 0 :: lineStartsFrom 0 b

end Bytes
end HouseRules
