import HouseRules.Settings.Value
import HouseRules.Text.Blank
import HouseRules.Text.Case
import HouseRules.Yaml.Node

/-! # Values of YAML documents

A node is made into a value by its tag. Before that, a mapping takes over the entries of the mappings
that it merges: they come first, and its own entries win. -/

namespace HouseRules.Yaml

/-! ### Numbers -/

/-- The value of a digit in bases up to 36. -/
def digitValue (c : Char) : Nat :=
  if c.isDigit then c.toNat - 48 else (Text.lowerChar c).toNat - 87

/-- A digit in a base. -/
def isDigitIn (base : Nat) (c : Char) : Bool :=
  if c.isDigit then c.toNat - 48 < base
  else c.isAlpha && digitValue c < base

/-- The mark that may stand in front of digits in a base. -/
def baseMark : Nat → List String
  | 2 => ["0b", "0B"]
  | 8 => ["0o", "0O"]
  | 16 => ["0x", "0X"]
  | _ => []

/-- A whole number in a base, with blanks around it, a sign and a mark of the base. -/
def wholeNumber (base : Nat) (cs : List Char) : Except Error Int :=
  let trimmed := Search.trim Text.isBlank cs
  let digits := unsigned trimmed
  let digits := ((baseMark base).findSome? fun m => Search.after? m.toList digits).getD digits
  if someOf (isDigitIn base) digits then
    let size : Nat := digits.foldl (fun n d => base * n + digitValue d) 0
    .ok (if trimmed.head? = some '-' then -(size : Int) else size)
  else .error (.notInteger base (String.ofList cs))

/-- The sum of parts in sixties of each other, the last part in ones. It is summed up from the end. -/
def sixties {α : Type} [Add α] [Mul α] [OfNat α 0] [OfNat α 1] [OfNat α 60] (parts : List α) : α :=
  (parts.reverse.foldl (fun (sum, unit) p => (sum + p * unit, unit * 60)) (0, 1)).1

/-- A number without its sign, and whether the sign is a minus. Underscores do not count. -/
def signedPart (text : String) : Except Error (Bool × List Char) :=
  match text.toList.filter (· != '_') with
  | [] => .error .emptyNumber
  | c :: r => .ok (c == '-', unsigned (c :: r))

/-- The whole number that a scalar writes. -/
def integerOf (text : String) : Except Error Int := do
  let (negative, cs) ← signedPart text
  let size ←
    match cs with
    | [] => throw .emptyNumber
    | ['0'] => pure 0
    | '0' :: 'b' :: r => wholeNumber 2 r
    | '0' :: 'x' :: r => wholeNumber 16 r
    | '0' :: _ => wholeNumber 8 cs
    | _ =>
      if cs.contains ':' then
        pure (sixties (← (Search.pieces ':' cs).mapM (wholeNumber 10)))
      else wholeNumber 10 cs
  return if negative then -size else size

/-- A decimal power that is out of the range of floating-point numbers either way. -/
def extremePower : Nat := 5000

/-- The number with given digits before and behind the point and a power of ten. -/
def realFrom (whole fraction : List Char) (power : Int) : Float :=
  let mantissa := (whole ++ fraction).foldl (fun n d => 10 * n + (d.toNat - 48)) 0
  let exponent := power - fraction.length
  if mantissa = 0 then 0
  else if exponent < 0 then
    if extremePower + (whole ++ fraction).length < exponent.natAbs then 0
    else Float.ofScientific mantissa true exponent.natAbs
  else if extremePower < exponent.natAbs then 1 / 0
  else Float.ofScientific mantissa false exponent.natAbs

/-- The power of ten behind a number, if the characters are one or none. -/
def powerOf? : List Char → Option Int
  | [] => some 0
  | e :: r =>
    let ds := unsigned r
    if (e == 'e' || e == 'E') && someOf Char.isDigit ds then
      let size : Nat := ds.foldl (fun n d => 10 * n + (d.toNat - 48)) 0
      some (if r.head? = some '-' then -(size : Int) else size)
    else none

/-- A number with a fraction, with blanks around it and a sign. -/
def realNumber (cs : List Char) : Except Error Float :=
  let trimmed := Search.trim Text.isBlank cs
  let body := unsigned trimmed
  let signed := fun (x : Float) => if trimmed.head? = some '-' then -x else x
  let whole := body.takeWhile Char.isDigit
  let rest := body.drop whole.length
  let tail := (behind? '.' rest).getD []
  let fraction := if rest.head? = some '.' then tail.takeWhile Char.isDigit else []
  let rest := if rest.head? = some '.' then tail.drop fraction.length else rest
  let word := String.ofList (body.map Text.lowerChar)
  if word == "inf" || word == "infinity" then .ok (signed (1 / 0))
  else if word == "nan" then .ok (0 / 0)
  else
    match powerOf? rest with
    | some power =>
      if whole.isEmpty && fraction.isEmpty then .error (.notReal (String.ofList cs))
      else .ok (signed (realFrom whole fraction power))
    | none => .error (.notReal (String.ofList cs))

/-- The number with a fraction that a scalar writes. -/
def realOf (text : String) : Except Error Float := do
  let (negative, cs) ← signedPart (String.ofList (text.toList.map Text.lowerChar))
  let size ←
    if cs == ".inf".toList then pure (1 / 0)
    else if cs == ".nan".toList then return 0 / 0
    else if cs.contains ':' then
      pure (sixties (← (Search.pieces ':' cs).mapM realNumber))
    else realNumber cs
  return if negative then -size else size

/-! ### Dates and bytes -/

/-- The date that a scalar writes. -/
def dateOf (text : String) : Except Error Value := do
  let some w := date? text.toList | throw .notDate
  let check := fun (fault : Option String) =>
    match fault with
    | some words => throw (Error.dateRange words)
    | none => pure ()
  if let some t := w.time then
    check (t.zone.bind Calendar.zoneFault?)
    check w.date.fault?
    check t.fault?
    return .stamp w.date t
  else
    check w.date.fault?
    return .date w.date

/-- The six bits of a character of an encoded byte string. -/
def sixBits? (c : Char) : Option Nat :=
  if 'A' ≤ c && c ≤ 'Z' then some (c.toNat - 65)
  else if 'a' ≤ c && c ≤ 'z' then some (c.toNat - 71)
  else if c.isDigit then some (c.toNat + 4)
  else if c = '+' then some 62
  else if c = '/' then some 63
  else none

/-- The bytes of characters that each stand for six bits. `held` is what is left over of the
characters before, `count` how many of the four of a group they are, `pads` the number of signs in
the place of missing ones. Other characters do not count. -/
def bytesOf? (count held pads : Nat) : List Char → Option Bytes
  | [] => if count = 0 then some [] else none
  | c :: r =>
    if c = '=' then
      if 2 ≤ count && 4 ≤ count + pads + 1 then some []
      else bytesOf? count held (if 2 ≤ count then pads + 1 else pads) r
    else
      match sixBits? c with
      | none => bytesOf? count held pads r
      | some v =>
        match count with
        | 0 => bytesOf? 1 v 0 r
        | 1 => (bytesOf? 2 (v % 16) 0 r).map ((held * 4 + v / 16).toUInt8 :: ·)
        | 2 => (bytesOf? 3 (v % 4) 0 r).map ((held * 16 + v / 4).toUInt8 :: ·)
        | _ => (bytesOf? 0 0 0 r).map ((held * 64 + v).toUInt8 :: ·)

/-! ### Scalars -/

/-- The name of a tag of the language itself. -/
def coreName? (tag : String) : Option String :=
  (Search.after? tagStart.toList tag.toList).map String.ofList

/-- The value of a scalar. -/
def scalarValue (tag text : String) : Except Error Value :=
  match coreName? tag with
  | some "str" => .ok (.string text)
  | some "null" => .ok .null
  | some "bool" =>
    let word := String.ofList (text.toList.map Text.lowerChar)
    match booleanWords.lookup word with
    | some b => .ok (.bool b)
    | none => .error (.notBoolean word)
  | some "int" => .int <$> integerOf text
  | some "float" => .real <$> realOf text
  | some "timestamp" => dateOf text
  | some "binary" =>
    if text.toList.all (·.toNat < 128) then
      match bytesOf? 0 0 0 text.toList with
      | some b => .ok (.bytes b)
      | none => .error .malformed
    else .error .malformed
  | _ => .error .malformed

/-! ### Merged mappings -/

/-- The entries that a merge takes over from a node. -/
def mergedFrom : Node → Except Error (List (Node × Node))
  | .mapping _ entries => .ok entries
  | .sequence _ items => do
    let parts ← items.mapM fun
      | .mapping _ entries => .ok entries
      | _ => .error Error.malformed
    return parts.reverse.flatten
  | _ => .error .malformed

/-- The node is a scalar with the tag. -/
def hasTag (name : String) : Node → Bool
  | .scalar tag _ => tag == coreTag name
  | _ => false

/-- The entries with the merged ones in front. -/
def mergeEntries (entries : List (Node × Node)) : Except Error (List (Node × Node)) := do
  let merged ← (entries.filter fun (k, _) => hasTag "merge" k).mapM fun (_, v) => mergedFrom v
  return merged.flatten ++ entries.filter fun (k, _) => !hasTag "merge" k

/-- A key that is only an equals sign is a text. -/
def plainKey : Node → Node
  | .scalar tag text => .scalar (if tag == coreTag "value" then coreTag "str" else tag) text
  | n => n

mutual

/-- The node with all its merges done. -/
def merged : Node → Except Error Node
  | .scalar tag text => .ok (.scalar tag text)
  | .sequence tag items => return .sequence tag (← mergedAll items)
  | .mapping tag entries => return .mapping tag (← mergeEntries (← mergedEntries entries))
  | .around b => .ok (.around b)

/-- Several nodes with all their merges done. -/
def mergedAll : List Node → Except Error (List Node)
  | [] => .ok []
  | n :: r => return (← merged n) :: (← mergedAll r)

/-- Several entries with all their merges done. -/
def mergedEntries : List (Node × Node) → Except Error (List (Node × Node))
  | [] => .ok []
  | e :: r => return (← mergedEntry e) :: (← mergedEntries r)

/-- An entry with all its merges done. -/
def mergedEntry : Node × Node → Except Error (Node × Node)
  | (k, v) => return (plainKey (← merged k), ← merged v)

end

/-! ### Values -/

/-- The entries of a mapping; a later value of a key replaces an earlier one. -/
def collect (entries : List (Value × Value)) : Except Error (List (Value × Value)) :=
  if entries.all fun (k, _) => k.canBeKey then
    .ok (entries.foldl (fun done (k, v) => Value.setKey k v done) [])
  else .error .malformed

/-- The pair that a mapping with one entry is. -/
def pairOf : Value → Except Error Value
  | .mapping [(k, v)] => .ok (.pair k v)
  | _ => .error .malformed

mutual

/-- The value of a node. -/
def valueOf : Node → Except Error Value
  | .scalar tag text => scalarValue tag text
  | .sequence tag items => do
    let values ← valuesOf items
    match coreName? tag with
    | some "seq" => return .list values
    | some "omap" | some "pairs" => return .list (← values.mapM pairOf)
    | _ => throw .malformed
  | .mapping tag entries => do
    let entries ← collect (← entriesOf entries)
    match coreName? tag with
    | some "map" => return .mapping entries
    | some "set" => return .set (entries.map (·.1))
    | _ => throw .malformed
  | .around b => .ok (.itself b)

/-- The values of several nodes. -/
def valuesOf : List Node → Except Error (List Value)
  | [] => .ok []
  | n :: r => return (← valueOf n) :: (← valuesOf r)

/-- The values of several entries. -/
def entriesOf : List (Node × Node) → Except Error (List (Value × Value))
  | [] => .ok []
  | e :: r => return (← entryOf e) :: (← entriesOf r)

/-- The values of an entry. -/
def entryOf : Node × Node → Except Error (Value × Value)
  | (k, v) => return (← valueOf k, ← valueOf v)

end

/-- The value of the only document of a text. -/
def load (text : String) : Except Error Value := do
  match ← nodeOf text with
  | none => return .null
  | some n => valueOf (← merged n)

/-- The wording of an error, for those that have one. -/
def Error.message : Error → String
  | malformed => ""
  | noCharacter _ => "chr() arg not in range(0x110000)"
  | notBoolean text => Text.quoted text
  | notInteger base text => s!"invalid literal for int() with base {base}: {Text.quoted text}"
  | notReal text => s!"could not convert string to float: {Text.quoted text}"
  | emptyNumber => "string index out of range"
  | notDate => "'NoneType' object has no attribute 'groupdict'"
  | dateRange words => words

end HouseRules.Yaml
