import HouseRules.Text.Utf8
import HouseRules.Text.Search

/-! # Lines and columns

Byte offsets of a source text as lines and columns. Lines and columns are counted from zero;
columns count characters, and a character that an offset cuts counts as one. Offsets may lie
anywhere: one before the text belongs to the first line, one behind it to the last. -/

namespace HouseRules

/-- A source text, encoded, with the offsets at which its lines start. -/
structure LineIndex where
  /-- The encoded text. -/
  bytes : Bytes
  /-- Where each line starts. -/
  starts : List Nat
deriving DecidableEq, Repr

namespace LineIndex

/-- The index of a text. -/
def ofSource (source : String) : LineIndex :=
  let bytes := Utf8.encode source
  ⟨bytes, Bytes.lineStarts bytes⟩

/-- The number of lines. -/
def size (x : LineIndex) : Nat := x.starts.length

/-- The line of an offset. -/
def lineOf (x : LineIndex) (offset : Int) : Nat :=
  (x.starts.takeWhile fun (s : Nat) => (s : Int) ≤ offset).length - 1

/-- Where a line starts. -/
def startOf (x : LineIndex) (line : Nat) : Nat := x.starts[line]?.getD 0

/-- Where a line ends: at the start of the next, or with the text. -/
def stopOf (x : LineIndex) (line : Nat) : Nat := x.starts[line + 1]?.getD x.bytes.length

/-- The number of characters between two offsets. -/
def charsBetween (x : LineIndex) (start stop : Int) : Nat :=
  (Utf8.items (x.bytes.slice start stop)).length

/-- The column of an offset in its line. -/
def columnOf (x : LineIndex) (offset : Int) : Nat :=
  x.charsBetween (x.startOf (x.lineOf offset)) offset

/-- The number of characters from the start of a line up to an offset. -/
def widthUntil (x : LineIndex) (line : Nat) (offset : Int) : Nat :=
  x.charsBetween (x.startOf line) (max offset (x.startOf line))

/-- The text of a line without its terminator. -/
def lineText (x : LineIndex) (line : Nat) : String :=
  String.ofList <|
    Search.dropEndWhile (fun c => c == '\r' || c == '\n') <|
      Utf8.decodeLossyList (x.bytes.slice (x.startOf line) (x.stopOf line))

end LineIndex
end HouseRules
