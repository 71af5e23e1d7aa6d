import HouseRules.Calendar.Stamp
import HouseRules.Decimal.Shortest
import HouseRules.Text.Bytes
import HouseRules.Text.Quoted

/-! # Values of a settings file

What a settings file may hold before it is known to be settings: scalars of several types, lists and
mappings. Each value can be written in two ways: `text` for reading, and `shown` inside of lists and
messages, where texts are quoted. -/

namespace HouseRules

/-- A value. -/
inductive Value where
  /-- Nothing. -/
  | null
  /-- A truth value. -/
  | bool (b : Bool)
  /-- A whole number. -/
  | int (n : Int)
  /-- A number with a fraction. -/
  | real (x : Float)
  /-- A text. -/
  | string (s : String)
  /-- A byte string. -/
  | bytes (b : Bytes)
  /-- A date. -/
  | date (d : Calendar.Date)
  /-- A date with a time of day. -/
  | stamp (d : Calendar.Date) (t : Calendar.Time)
  /-- A list. -/
  | list (items : List Value)
  /-- A mapping, by the order of its keys. -/
  | mapping (entries : List (Value × Value))
  /-- A set, by the order of its elements. -/
  | set (items : List Value)
  /-- A pair. -/
  | pair (first second : Value)
  /-- A list, or else a mapping, that holds itself here. -/
  | itself (isList : Bool)

namespace Value

/-- The name of a value's type. -/
def typeName : Value → String
  | null => "NoneType"
  | bool _ => "bool"
  | int _ => "int"
  | real _ => "float"
  | string _ => "str"
  | bytes _ => "bytes"
  | date _ => "datetime.date"
  | stamp .. => "datetime.datetime"
  | list _ | itself true => "list"
  | mapping _ | itself false => "dict"
  | set _ => "set"
  | pair .. => "tuple"

/-- The value counts as nothing: zero, or empty. -/
def isNothing : Value → Bool
  | null => true
  | bool b => !b
  | int n => n = 0
  | real x => x == 0
  | string s => s.isEmpty
  | bytes b => b.isEmpty
  | list items => items.isEmpty
  | mapping entries => entries.isEmpty
  | set items => items.isEmpty
  | _ => false

/-- A byte inside quotes. -/
def shownByte (q : Char) (x : UInt8) : List Char :=
  let c := Char.ofNat x.toNat
  if c = q || c = '\\' then ['\\', c]
  else if c = '\t' then ['\\', 't']
  else if c = '\n' then ['\\', 'n']
  else if c = '\r' then ['\\', 'r']
  else if x < 0x20 || 0x7F ≤ x then '\\' :: 'x' :: Text.hexDigits 2 x.toNat
  else [c]

/-- A byte string in quotes. -/
def shownBytes (b : Bytes) : String :=
  let q := Text.quoteMark (b.map fun x => Char.ofNat x.toNat)
  String.ofList ('b' :: q :: b.flatMap (shownByte q) ++ [q])

mutual

/-- A value inside of a list or a message. -/
def shown : Value → String
  | null => "None"
  | bool b => if b then "True" else "False"
  | int n => toString n
  | real x => Decimal.text x
  | string s => Text.quoted s
  | bytes b => shownBytes b
  | date d => d.call
  | stamp d t => Calendar.stampCall d t
  | list items => "[" ++ ", ".intercalate (shownAll items) ++ "]"
  | mapping entries => "\x7b" ++ ", ".intercalate (shownEntries entries) ++ "\x7d"
  | set [] => "set()"
  | set (x :: r) => "\x7b" ++ ", ".intercalate (shown x :: shownAll r) ++ "\x7d"
  | pair a b => "(" ++ shown a ++ ", " ++ shown b ++ ")"
  | itself isList => if isList then "[...]" else "\x7b...\x7d"

/-- Several values. -/
def shownAll : List Value → List String
  | [] => []
  | v :: r => shown v :: shownAll r

/-- The entries of a mapping. -/
def shownEntries : List (Value × Value) → List String
  | [] => []
  | e :: r => shownEntry e :: shownEntries r

/-- An entry of a mapping. -/
def shownEntry : Value × Value → String
  | (k, v) => shown k ++ ": " ++ shown v

end

/-- A value for reading. -/
def text : Value → String
  | string s => s
  | date d => d.text
  | stamp d t => d.text ++ " " ++ t.text
  | v => shown v

/-- The number that a value is, if it is one. -/
def number? : Value → Option (Int ⊕ Float)
  | bool b => some (.inl (if b then 1 else 0))
  | int n => some (.inl n)
  | real x => some (.inr x)
  | _ => none

/-- Two numbers are equal. -/
def sameNumber : Int ⊕ Float → Int ⊕ Float → Bool
  | .inl a, .inl b => a = b
  | .inl a, .inr x => x == Float.ofInt a
  | .inr x, .inl a => x == Float.ofInt a
  | .inr x, .inr y => x == y

/-- Two values are the same key of a mapping. Numbers of different types may be equal. -/
def sameKey (a b : Value) : Bool :=
  match a.number?, b.number? with
  | some x, some y => sameNumber x y
  | none, none => a.shown == b.shown
  | _, _ => false

/-- The value can be a key: it is neither a list nor a mapping nor a set. -/
def canBeKey : Value → Bool
  | list _ | mapping _ | set _ | itself _ => false
  | pair a b => a.canBeKey && b.canBeKey
  | _ => true

/-- The entries with a key set to a value. A key that is there keeps its place. -/
def setKey (k v : Value) : List (Value × Value) → List (Value × Value)
  | [] => [(k, v)]
  | (k', v') :: r => if sameKey k' k then (k', v) :: r else (k', v') :: setKey k v r

/-- The value of a text key. -/
def field? (entries : List (Value × Value)) (name : String) : Option Value :=
  (entries.find? fun (k, _) => match k with
    | string s => s == name
    | _ => false).map (·.2)

end Value
end HouseRules
