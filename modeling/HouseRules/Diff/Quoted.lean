import HouseRules.Text.Bytes

/-! # Quoted paths

A path with unusual bytes is written between double quotes, its bytes escaped by a backslash and a
letter, a punctuation mark, or three octal digits. `unquote` undoes any such writing, and leaves a
path without the two quotes alone. -/

namespace HouseRules.Diff

/-- What a path cannot be read for. -/
inductive PathError where
  /-- Three octal digits name a number above 255. -/
  | escapeTooLarge
deriving DecidableEq, Repr

/-- The wording of a path error. -/
def PathError.message : PathError → String
  | escapeTooLarge => "bytes must be in range(0, 256)"

/-- The double quote. -/
def quote : UInt8 := 0x22

/-- The backslash. -/
def backslash : UInt8 := 0x5C

/-- The byte that a backslash before `x` stands for. -/
def escaped (x : UInt8) : UInt8 :=
  if x = 0x61 then 0x07
  else if x = 0x62 then 0x08
  else if x = 0x66 then 0x0C
  else if x = 0x6E then 0x0A
  else if x = 0x72 then 0x0D
  else if x = 0x74 then 0x09
  else if x = 0x76 then 0x0B
  else x

/-- The byte of three octal digits. -/
def octal (a b c : UInt8) : Except PathError UInt8 :=
  let n := Bytes.number 8 [a, b, c]
  if n < 256 then .ok n.toUInt8 else .error .escapeTooLarge

/-- The bytes between the quotes, escapes resolved from left to right. A backslash before a line
feed or at the end stands for itself. -/
def unescape : Bytes → Except PathError Bytes
  | [] => .ok []
  | [x] => .ok [x]
  | [x, y] =>
    if x = backslash ∧ y ≠ Bytes.newline then .ok [escaped y] else (x :: ·) <$> unescape [y]
  | [x, y, z] =>
    if x = backslash ∧ y ≠ Bytes.newline then (escaped y :: ·) <$> unescape [z]
    else (x :: ·) <$> unescape [y, z]
  | x :: y :: z :: w :: r =>
    if x = backslash then
      if Bytes.isOctalDigit y && Bytes.isOctalDigit z && Bytes.isOctalDigit w then do
        let d ← octal y z w
        (d :: ·) <$> unescape r
      else if y ≠ Bytes.newline then (escaped y :: ·) <$> unescape (z :: w :: r)
      else (x :: ·) <$> unescape (y :: z :: w :: r)
    else (x :: ·) <$> unescape (y :: z :: w :: r)

/-- The byte string starts and ends with a quote, and these are two. -/
def isQuoted (raw : Bytes) : Bool :=
  2 ≤ raw.length && raw.head? == some quote && raw.getLast? == some quote

/-- The path that a byte string writes. -/
def unquote (raw : Bytes) : Except PathError Bytes :=
  if isQuoted raw then unescape (raw.drop 1).dropLast else .ok raw

end HouseRules.Diff
