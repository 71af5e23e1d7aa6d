import HouseRules.Calendar.Stamp
import HouseRules.Text.Search

/-! # Types of plain scalars

A plain scalar has the type that its writing shows: a truth value, a number, nothing, a date, or
else a text. The types are named by tags. -/

namespace HouseRules.Yaml

/-- The common start of the tags of the language itself. -/
def tagStart : String := "tag:yaml.org,2002:"

/-- A tag of the language itself. -/
def coreTag (name : String) : String := tagStart ++ name

/-! ### Truth values and nothing -/

/-- The words for truth values. -/
def booleanWords : List (String × Bool) :=
  [("yes", true), ("no", false), ("true", true), ("false", false), ("on", true), ("off", false)]

/-- A word in small letters, with a capital, and in capitals. -/
def casesOf (word : String) : List String :=
  [word, String.ofList (match word.toList with
    | [] => []
    | c :: r => c.toUpper :: r), String.ofList (word.toList.map Char.toUpper)]

/-- The writing of a truth value. -/
def isBoolean (s : String) : Bool := (booleanWords.flatMap fun (w, _) => casesOf w).contains s

/-- The writing of nothing. -/
def isNull (s : String) : Bool := s == "" || s == "~" || (casesOf "null").contains s

/-! ### Numbers -/

/-- The characters without a sign in front. -/
def unsigned : List Char → List Char
  | '+' :: r => r
  | '-' :: r => r
  | cs => cs

/-- A decimal digit or an underscore. -/
def isDigitOrGap (c : Char) : Bool := c.isDigit || c == '_'

/-- Not empty, and of characters of a class only. -/
def someOf (p : Char → Bool) (cs : List Char) : Bool := !cs.isEmpty && cs.all p

/-- A part of a number in base 60 behind its first: one digit, or two up to 59. -/
def isSixtieth : List Char → Bool
  | [d] => d.isDigit
  | [t, d] => '0' ≤ t && t ≤ '5' && d.isDigit
  | _ => false

/-- The parts between colons are a number in base 60. -/
def isSexagesimal (first : List Char → Bool) (cs : List Char) : Bool :=
  match Search.pieces ':' cs with
  | p :: q :: r => first p && (q :: r).all isSixtieth
  | _ => false

/-- Starts with a digit from `lo` on and goes on with digits and underscores. -/
def isDigitRun (lo : Char) : List Char → Bool
  | [] => false
  | d :: r => lo ≤ d && d.isDigit && r.all isDigitOrGap

/-- The writing of a whole number: binary, octal, decimal, hexadecimal or in base 60. -/
def isInteger (s : String) : Bool :=
  let cs := unsigned s.toList
  let marked := fun (mark : String) (p : Char → Bool) =>
    ((Search.after? mark.toList cs).map (someOf p)).getD false
  cs == ['0'] || isDigitRun '1' cs ||
    marked "0b" (fun c => c == '0' || c == '1' || c == '_') ||
    marked "0x" (fun c => c.isDigit || ('a' ≤ c && c ≤ 'f') || ('A' ≤ c && c ≤ 'F') || c == '_') ||
    marked "0" (fun c => ('0' ≤ c && c ≤ '7') || c == '_') ||
    isSexagesimal (isDigitRun '1') cs

/-- Nothing, or an exponent with its sign. -/
def isExponent : List Char → Bool
  | [] => true
  | e :: s :: ds => (e == 'e' || e == 'E') && (s == '+' || s == '-') && someOf Char.isDigit ds
  | _ => false

/-- Digits and underscores, then possibly an exponent. -/
def isFraction (cs : List Char) : Bool := isExponent (cs.dropWhile isDigitOrGap)

/-- The writing of a number with a fraction. -/
def isReal (s : String) : Bool :=
  let cs := unsigned s.toList
  let hasSign := cs.length < s.length
  let whole := cs.takeWhile (· != '.')
  let fraction := (cs.drop whole.length).drop 1
  let named := fun (w : String) => casesOf w |>.any fun x => cs == '.' :: x.toList
  (cs.contains '.' &&
      ((isDigitRun '0' whole && isFraction fraction) ||
        (whole.isEmpty && !hasSign && (fraction.head?.map Char.isDigit).getD false &&
          isFraction fraction) ||
        (isSexagesimal (isDigitRun '0') whole && fraction.all isDigitOrGap))) ||
    named "inf" || (!hasSign && (cs == ".nan".toList || cs == ".NaN".toList || cs == ".NAN".toList))

/-! ### Dates -/

/-- A date as it is written, with its parts not yet checked. -/
structure WrittenDate where
  /-- The date. -/
  date : Calendar.Date
  /-- Month and day have two digits each. -/
  full : Bool
  /-- The time of day, if there is one. -/
  time : Option Calendar.Time

/-- A number of `least` up to `most` digits, how many they are, and what follows. -/
def digits? (least most : Nat) (cs : List Char) : Option (Nat × Nat × List Char) :=
  let ds := (cs.take most).takeWhile Char.isDigit
  if ds.length < least then none
  else some (ds.foldl (fun n d => 10 * n + (d.toNat - 48)) 0, ds.length, cs.drop ds.length)

/-- What follows a character. -/
def behind? (c : Char) : List Char → Option (List Char)
  | [] => none
  | x :: r => if x = c then some r else none

/-- A distance from universal time that is all of the characters. -/
def zone? (cs : List Char) : Option Int := do
  let s :: r := cs | none
  if s = 'Z' then (if r.isEmpty then some 0 else none)
  else
    if s ≠ '+' && s ≠ '-' then none
    let (hours, _, r) ← digits? 1 2 r
    let minutes ← if r.isEmpty then some 0 else do
      let (m, _, r) ← digits? 2 2 (← behind? ':' r)
      if r.isEmpty then some m else none
    let size : Int := 60 * hours + minutes
    some (if s = '-' then -size else size)

/-- The millionths of a second that digits behind a point stand for. -/
def microOf (ds : List Char) : Nat :=
  let six := ds.take 6
  (six ++ List.replicate (6 - six.length) '0').foldl (fun n d => 10 * n + (d.toNat - 48)) 0

/-- A time of day that is all of the characters. -/
def time? (cs : List Char) : Option Calendar.Time := do
  let isBlank := fun c => c == ' ' || c == '\t'
  let c :: r := cs | none
  let r ← if c = 'T' || c = 't' then some r
    else if isBlank c then some (r.dropWhile isBlank)
    else none
  let (hour, _, r) ← digits? 1 2 r
  let (minute, _, r) ← digits? 2 2 (← behind? ':' r)
  let (second, _, r) ← digits? 2 2 (← behind? ':' r)
  let tail := (behind? '.' r).getD []
  let fraction := tail.takeWhile Char.isDigit
  let r := if r.head? = some '.' then tail.drop fraction.length else r
  let t : Calendar.Time := { hour, minute, second, micro := microOf fraction }
  if r.isEmpty then some t
  else some { t with zone := some (← zone? (r.dropWhile isBlank)) }

/-- A date that is all of the characters. -/
def date? (cs : List Char) : Option WrittenDate := do
  let (year, _, r) ← digits? 4 4 cs
  let (month, m, r) ← digits? 1 2 (← behind? '-' r)
  let (day, d, r) ← digits? 1 2 (← behind? '-' r)
  let full := m = 2 && d = 2
  if r.isEmpty then some ⟨⟨year, month, day⟩, full, none⟩
  else some ⟨⟨year, month, day⟩, full, some (← time? r)⟩

/-- The writing of a date. Without a time of day it has all its digits. -/
def isDate (s : String) : Bool :=
  match date? s.toList with
  | some d => d.full || d.time.isSome
  | none => false

/-- The tag of a plain scalar. -/
def implicitTag (s : String) : String :=
  coreTag <|
    if isBoolean s then "bool"
    else if isReal s then "float"
    else if isInteger s then "int"
    else if s == "<<" then "merge"
    else if isNull s then "null"
    else if isDate s then "timestamp"
    else if s == "=" then "value"
    else "str"

end HouseRules.Yaml
