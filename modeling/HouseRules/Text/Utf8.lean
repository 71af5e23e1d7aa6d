import HouseRules.Text.Bytes

/-! # UTF-8

A byte string is read as a sequence of items: a character, or a fault that covers a longest run of
bytes which could have begun a character. Every byte belongs to exactly one item, so the three ways
of decoding are views of the same list: `decode` refuses the first fault, `decodeLossy` writes one
replacement character for each, and `decodeIgnoringList` leaves them out. -/

namespace HouseRules.Utf8

/-- The encoding of a text. -/
def encodeList (cs : List Char) : Bytes := cs.flatMap String.utf8EncodeChar

/-- The encoding of a text. -/
def encode (s : String) : Bytes := encodeList s.toList

/-- Why a run of bytes is no character. -/
inductive Reason where
  /-- No character starts with the byte. -/
  | badStart
  /-- The byte after the run does not continue the character. -/
  | badContinuation
  /-- The string ends inside the character. -/
  | endOfData
deriving DecidableEq, Repr

/-- The wording of a reason. -/
def Reason.message : Reason → String
  | badStart => "invalid start byte"
  | badContinuation => "invalid continuation byte"
  | endOfData => "unexpected end of data"

/-- One item of a byte string. -/
inductive Item where
  /-- A character with its encoding. -/
  | char (c : Char) (size : Nat)
  /-- A run of bytes that is no character. -/
  | fault (first : UInt8) (size : Nat) (reason : Reason)
deriving DecidableEq, Repr

/-- How many bytes an item covers. -/
def Item.size : Item → Nat
  | char _ n => n
  | fault _ n _ => n

/-- The character of an item, unless it is a fault. -/
def Item.char? : Item → Option Char
  | char c _ => some c
  | fault .. => none

/-- The replacement character. -/
def replacement : Char := Char.ofNat 0xFFFD

/-- A byte of the form `10xxxxxx`. -/
def isContinuation (x : UInt8) : Bool := 0x80 ≤ x && x ≤ 0xBF

/-- The least and greatest second byte after a first byte of a longer character. -/
def secondRange (x : UInt8) : UInt8 × UInt8 :=
  if x = 0xE0 then (0xA0, 0xBF)
  else if x = 0xED then (0x80, 0x9F)
  else if x = 0xF0 then (0x90, 0xBF)
  else if x = 0xF4 then (0x80, 0x8F)
  else (0x80, 0xBF)

/-- How many bytes a character that starts with the byte has, zero if there is none. -/
def sizeOfStart (x : UInt8) : Nat :=
  if x ≤ 0x7F then 1
  else if x < 0xC2 then 0
  else if x ≤ 0xDF then 2
  else if x ≤ 0xEF then 3
  else if x ≤ 0xF4 then 4
  else 0

/-- The payload bits of a continuation byte. -/
def low6 (x : UInt8) : Nat := x.toNat % 64

/-- The first item of the byte string `x :: r`. -/
def firstItem (x : UInt8) (r : Bytes) : Item :=
  let (lo, hi) := secondRange x
  match sizeOfStart x, r with
  | 1, _ => .char (Char.ofNat x.toNat) 1
  | 2, [] => .fault x 1 .endOfData
  | 2, y :: _ =>
    if isContinuation y then .char (Char.ofNat (x.toNat % 32 * 64 + low6 y)) 2
    else .fault x 1 .badContinuation
  | 3, [] => .fault x 1 .endOfData
  | 3, [y] => if lo ≤ y && y ≤ hi then .fault x 2 .endOfData else .fault x 1 .badContinuation
  | 3, y :: z :: _ =>
    if !(lo ≤ y && y ≤ hi) then .fault x 1 .badContinuation
    else if isContinuation z then
      .char (Char.ofNat (x.toNat % 16 * 4096 + low6 y * 64 + low6 z)) 3
    else .fault x 2 .badContinuation
  | 4, [] => .fault x 1 .endOfData
  | 4, [y] => if lo ≤ y && y ≤ hi then .fault x 2 .endOfData else .fault x 1 .badContinuation
  | 4, [y, z] =>
    if !(lo ≤ y && y ≤ hi) then .fault x 1 .badContinuation
    else if isContinuation z then .fault x 3 .endOfData
    else .fault x 2 .badContinuation
  | 4, y :: z :: w :: _ =>
    if !(lo ≤ y && y ≤ hi) then .fault x 1 .badContinuation
    else if !isContinuation z then .fault x 2 .badContinuation
    else if isContinuation w then
      .char (Char.ofNat (x.toNat % 8 * 262144 + low6 y * 4096 + low6 z * 64 + low6 w)) 4
    else .fault x 3 .badContinuation
  | _, _ => .fault x 1 .badStart

/-- The items of a byte string, from left to right. -/
def items : Bytes → List Item
  | [] => []
  | x :: r =>
    let item := firstItem x r
    item :: items (r.drop (item.size - 1))
termination_by b => b.length
decreasing_by simp only [List.length_drop, List.length_cons]; omega

/-- Where and why decoding stopped. -/
structure Fault where
  /-- The offset of the run. -/
  start : Nat
  /-- The first byte of the run. -/
  first : UInt8
  /-- The length of the run. -/
  size : Nat
  /-- What is wrong with it. -/
  reason : Reason
deriving DecidableEq, Repr

/-- Two hexadecimal digits. -/
def hexByte (x : UInt8) : String :=
  String.ofList [Nat.digitChar (x.toNat / 16), Nat.digitChar (x.toNat % 16)]

/-- The wording of a fault. -/
def Fault.message (f : Fault) : String :=
  if f.size = 1 then
    s!"'utf-8' codec can't decode byte 0x{hexByte f.first} in position {f.start}: " ++ f.reason.message
  else
    let last := f.start + f.size - 1
    s!"'utf-8' codec can't decode bytes in position {f.start}-{last}: " ++ f.reason.message

/-- The fault as it appears when a file is read piece by piece. A character that the end of the file
cuts off is held back until then, so its offset is counted from its own first byte. -/
def Fault.whenHeldBack (f : Fault) : Fault :=
  if f.reason = .endOfData then { f with start := 0 } else f

/-- The characters of the items before the first fault, or that fault. -/
def charsOf (start : Nat) : List Item → Except Fault (List Char)
  | [] => .ok []
  | .char c n :: r => (c :: ·) <$> charsOf (start + n) r
  | .fault x n reason :: _ => .error ⟨start, x, n, reason⟩

/-- The text that a byte string encodes. -/
def decode (b : Bytes) : Except Fault String := String.ofList <$> charsOf 0 (items b)

/-- The characters of a byte string, one replacement character for each fault. -/
def decodeLossyList (b : Bytes) : List Char :=
  (items b).map fun i => i.char?.getD replacement

/-- The text of a byte string, one replacement character for each fault. -/
def decodeLossy (b : Bytes) : String := String.ofList (decodeLossyList b)

/-- The characters of a byte string without its faults. -/
def decodeIgnoringList (b : Bytes) : List Char := (items b).filterMap Item.char?

end HouseRules.Utf8
