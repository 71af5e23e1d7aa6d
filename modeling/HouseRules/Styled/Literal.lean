import HouseRules.Text.CharName
import HouseRules.Text.Digit

/-! # Literals

The parameters of a handler are written as a literal: a number, a text, a byte string, `None`,
`True`, `False`, three dots, or a tuple, a set or a dictionary of literals. A real number plus or
minus an imaginary one is a literal, too. What a literal means is not looked at here, only whether a
text is one (`isLiteral`).

The text is cut into tokens, and these are read with a stack of the brackets that are open. Lists do
not occur: handlers stand in square brackets themselves. -/

namespace HouseRules.Styled

open Text (numberOf isHex isOctal)

/-! ### Tokens -/

/-- A unit of the text of a literal. -/
inductive LiteralToken where
  /-- A bracket, a comma, a colon or a sign. -/
  | mark (c : Char)
  /-- A number. -/
  | number (imaginary : Bool)
  /-- A text or a byte string. -/
  | quoted (bytes : Bool)
  /-- A constant with a name, or three dots. -/
  | constant
  /-- The name of the empty set, without the brackets behind it. -/
  | setName
  deriving DecidableEq, Repr

/-- What follows digits, single underscores between them allowed. -/
def afterDigits (test : Char → Bool) : List Char → List Char
  | [] => []
  | [c] => if test c then [] else [c]
  | c :: d :: r =>
    if test c || (c == '_' && test d) then afterDigits test (d :: r) else c :: d :: r

/-- The text starts with a decimal digit. -/
def startsDigit (cs : List Char) : Bool := (cs.head?.map Char.isDigit).getD false

/-- What follows decimal digits, none if there are none. -/
def afterDecimals? (cs : List Char) : Option (List Char) :=
  if startsDigit cs then some (afterDigits Char.isDigit cs) else none

/-- What follows an exponent, none if there is none. -/
def afterExponent? : List Char → Option (List Char)
  | e :: r =>
    if e == 'e' || e == 'E' then
      match r with
      | '+' :: r => afterDecimals? r
      | '-' :: r => afterDecimals? r
      | r => afterDecimals? r
    else none
  | [] => none

/-- The decimal digits can stand for a whole number: no zero leads, and they are not too many. -/
def isWhole (ds : List Char) : Bool :=
  if ds.head? == some '0' then ds.all fun d => d == '0' || d == '_'
  else ds.countP Char.isDigit ≤ Text.maxDigits

/-- What follows a number in decimal digits, and whether it is imaginary. -/
def afterDecimal? (cs : List Char) : Option (Bool × List Char) :=
  let whole := (afterDecimals? cs).getD cs
  let (point, r) : Bool × List Char := match whole with
    | '.' :: r => (true, (afterDecimals? r).getD r)
    | r => (false, r)
  let exponent? := afterExponent? r
  match exponent?.getD r with
  | 'j' :: r => some (true, r)
  | 'J' :: r => some (true, r)
  | r =>
    if point || exponent?.isSome || isWhole (cs.take (cs.length - r.length)) then some (false, r)
    else none

/-- What follows the digits of a whole number behind the mark of its base. -/
def afterBased? (test : Char → Bool) (cs : List Char) : Option (Bool × List Char) :=
  let r := afterDigits test cs
  if r.length < cs.length then some (false, r) else none

/-- The character can stand in a name. -/
def isNameChar (c : Char) : Bool := c == '_' || c.isAlphanum || 128 ≤ c.toNat

/-- What follows a number, and whether it is imaginary. No name may follow. -/
def afterNumber? (cs : List Char) : Option (Bool × List Char) :=
  let number? := match cs with
    | '0' :: c :: r =>
      if c == 'x' || c == 'X' then afterBased? isHex r
      else if c == 'o' || c == 'O' then afterBased? isOctal r
      else if c == 'b' || c == 'B' then afterBased? (fun d => d == '0' || d == '1') r
      else afterDecimal? cs
    | _ => afterDecimal? cs
  number?.filter fun (_, r) => !(r.head?.map isNameChar).getD false

/-- The characters of a quoted text up to its closing quotes, and what follows these. -/
def quotedBody? (quote : Char) (triple : Bool) : List Char → Option (List Char × List Char)
  | [] => none
  | '\\' :: c :: r => (quotedBody? quote triple r).map fun (body, rest) => ('\\' :: c :: body, rest)
  | c :: r =>
    if c == quote && (!triple || r.take 2 == [quote, quote]) then
      some ([], if triple then r.drop 2 else r)
    else if c == '\n' && !triple then none
    else (quotedBody? quote triple r).map fun (body, rest) => (c :: body, rest)

/-- The text starts with so many hexadecimal digits. -/
def startsHex (n : Nat) (cs : List Char) : Bool := (cs.take n).length == n && (cs.take n).all isHex

/-- The text starts with the name of a character in braces. -/
def startsCharName : List Char → Bool
  | '\x7b' :: r =>
    let name := r.takeWhile (· != '\x7d')
    name.length < r.length && (Text.charNamed? (String.ofList name)).isSome
  | _ => false

/-- All escapes are complete. Byte strings have fewer of them. -/
def escapesComplete (bytes : Bool) : List Char → Bool
  | [] => true
  | '\\' :: c :: r =>
    let complete := match c with
      | 'x' => startsHex 2 r
      | 'u' => bytes || startsHex 4 r
      | 'U' => bytes || (startsHex 8 r && numberOf 16 (r.take 8) ≤ 0x10FFFF)
      | 'N' => bytes || startsCharName r
      | _ => true
    complete && escapesComplete bytes r
  | _ :: r => escapesComplete bytes r

/-- What follows a quoted text with the given prefix, and whether it is a byte string. -/
def afterQuoted? (lead : List Char) (quote : Char) (cs : List Char) : Option (Bool × List Char) :=
  let bytes := lead.contains 'b'
  let triple := cs.take 2 == [quote, quote]
  (quotedBody? quote triple (if triple then cs.drop 2 else cs)).bind fun (body, rest) =>
    if (!bytes || body.all (·.toNat < 128)) && (lead.contains 'r' || escapesComplete bytes body) then
      some (bytes, rest)
    else none

/-- What may stand right before the quotes of a text. -/
def quotedLeads : List (List Char) := ["", "r", "u", "b", "br", "rb"].map String.toList

/-- The letters that count as those of the name of the empty set. -/
def setLetters : List (List Nat) := [
  [0x73, 0x17F, 0x2E2, 0x209B, 0xFF53, 0x1D42C, 0x1D460, 0x1D494, 0x1D4C8, 0x1D4FC, 0x1D530,
    0x1D564, 0x1D598, 0x1D5CC, 0x1D600, 0x1D634, 0x1D668, 0x1D69C],
  [0x65, 0x1D49, 0x2091, 0x212F, 0x2147, 0xFF45, 0x1D41E, 0x1D452, 0x1D486, 0x1D4EE, 0x1D522,
    0x1D556, 0x1D58A, 0x1D5BE, 0x1D5F2, 0x1D626, 0x1D65A, 0x1D68E],
  [0x74, 0x1D57, 0x209C, 0xFF54, 0x1D42D, 0x1D461, 0x1D495, 0x1D4C9, 0x1D4FD, 0x1D531, 0x1D565,
    0x1D599, 0x1D5CD, 0x1D601, 0x1D635, 0x1D669, 0x1D69D]]

/-- The token that a name is. -/
def nameToken? (name : List Char) : Option LiteralToken :=
  if ["None", "True", "False"].contains (String.ofList name) then some .constant
  else if name.length = setLetters.length &&
      (name.zip setLetters).all fun (c, letters) => letters.contains c.toNat then some .setName
  else none

/-- The first token of a text, and what follows it. -/
def literalToken? (cs : List Char) : Option (LiteralToken × List Char) :=
  let name := cs.takeWhile isNameChar
  let lead := name.map Char.toLower
  match cs, cs.drop name.length with
  | '.' :: '.' :: '.' :: r, _ => some (.constant, r)
  | c :: r, rest =>
    if c.isDigit || (c == '.' && startsDigit r) then
      (afterNumber? cs).map fun (imaginary, r) => (.number imaginary, r)
    else if ['(', ')', '\x7b', '\x7d', ',', ':', '+', '-'].contains c then some (.mark c, r)
    else match rest with
      | q :: body =>
        if q == '\x27' || q == '\x22' then
          if quotedLeads.contains lead then
            (afterQuoted? lead q body).map fun (bytes, r) => (.quoted bytes, r)
          else none
        else (nameToken? name).map fun t => (t, rest)
      | [] => (nameToken? name).map fun t => (t, rest)
  | [], _ => none

/-- What follows blank lines and comments, and whether the line there is indented. -/
def lineStart? : (indented : Bool) → List Char → Option (Bool × List Char)
  | indented, [] => some (indented, [])
  | indented, c :: r =>
    if c == ' ' || c == '\t' then lineStart? true r
    else if c == '\n' || c == '\x0c' then lineStart? false r
    else if c == '#' then lineStart? false (r.dropWhile (· != '\n'))
    else if c == '\\' then
      match r with
      | '\n' :: d :: r => lineStart? indented (d :: r)
      | _ => none
    else some (indented, c :: r)
termination_by _ cs => cs.length
decreasing_by
  all_goals simp only [List.length_cons]
  · omega
  · omega
  · exact Nat.lt_succ_of_le (List.dropWhile_suffix _).length_le
  · omega

/-- The deepest nesting of brackets. -/
def maxDepth : Nat := 200

/-- How many brackets are open behind a token. Not too many may be, and none may be closed that is
not open. -/
def depthAfter? (depth : Nat) (t : LiteralToken) : Option Nat :=
  if t = .mark '(' || t = .mark '\x7b' then if depth < maxDepth then some (depth + 1) else none
  else if t = .mark ')' || t = .mark '\x7d' then if depth = 0 then none else some (depth - 1)
  else some depth

/-- The tokens of a text with so many open brackets before it. Lines end inside brackets only. -/
def literalTokens? (depth : Nat) (cs : List Char) : Option (List LiteralToken) :=
  match cs with
  | [] => some []
  | c :: r =>
    if c == ' ' || c == '\t' || c == '\x0c' then literalTokens? depth r
    else if c == '#' then literalTokens? depth (r.dropWhile (· != '\n'))
    else if c == '\n' then
      if depth = 0 then
        match lineStart? false r with
        | some (_, []) => some []
        | _ => none
      else literalTokens? depth r
    else if c == '\\' then
      match r with
      | '\n' :: d :: r => literalTokens? depth (d :: r)
      | _ => none
    else
      match literalToken? (c :: r) with
      | some (t, rest) => do
        let depth ← depthAfter? depth t
        return t :: (← literalTokens? depth (r.drop (r.length - rest.length)))
      | none => none
termination_by cs.length
decreasing_by
  all_goals simp only [List.length_cons, List.length_drop]
  · omega
  · exact Nat.lt_succ_of_le (List.dropWhile_suffix _).length_le
  · omega
  · omega
  · omega

/-! ### Values -/

/-- What matters of a value for those around it. -/
inductive LiteralKind where
  /-- A number with neither sign nor imaginary unit. -/
  | real
  /-- An imaginary number without sign. -/
  | imaginary
  /-- A real number with a sign. -/
  | signedReal
  /-- A text or a byte string, which can be continued by another one. -/
  | quoted (bytes : Bool)
  /-- Another value that can be an element of a set. -/
  | hashable
  /-- A value that cannot. -/
  | unhashable
  /-- The name of the empty set, no value yet. -/
  | setName
  deriving DecidableEq, Repr

/-- A value that is being read. -/
inductive Operand where
  /-- Nothing of it has been read. -/
  | nothing
  /-- A sign. -/
  | signed
  /-- A real number and a sign behind it. -/
  | sum
  /-- A value. -/
  | value (k : LiteralKind)
  deriving DecidableEq, Repr

/-- What is being read when a value has come. -/
def Operand.push? : Operand → LiteralKind → Option Operand
  | nothing, k => some (.value k)
  | signed, .real => some (.value .signedReal)
  | signed, .imaginary => some (.value .hashable)
  | sum, .imaginary => some (.value .hashable)
  | value (.quoted b), .quoted b' => if b = b' then some (.value (.quoted b)) else none
  | _, _ => none

/-- What is being read when a sign has come. -/
def Operand.sign? : Operand → Option Operand
  | nothing => some .signed
  | value .real => some .sum
  | value .signedReal => some .sum
  | _ => none

/-- The value that has been read can be an element of a set; none if there is no value. -/
def Operand.hashable? : Operand → Option Bool
  | value .setName => none
  | value k => some (k ≠ .unhashable)
  | _ => none

/-- Where values are read. -/
inductive Enclosure where
  /-- Outside of all brackets. -/
  | outside
  /-- In round brackets. -/
  | round
  /-- In the brackets behind the name of the empty set. -/
  | call
  /-- In braces, which hold a dictionary or a set once that is known. The colon of the pair that is
  being read may have come. -/
  | braces (dictionary : Option Bool) (colon : Bool)
  deriving DecidableEq, Repr

/-- An open bracket and what has been read behind it. -/
structure OpenLiteral where
  /-- The bracket. -/
  enclosure : Enclosure
  /-- There was a comma. -/
  comma : Bool := false
  /-- All values before the last comma can be elements of a set. -/
  hashable : Bool := true
  /-- The value behind it. -/
  operand : Operand := .nothing

namespace OpenLiteral

/-- A comma ends a value. -/
def comma? (s : OpenLiteral) : Option OpenLiteral := do
  let h ← s.operand.hashable?
  let next : OpenLiteral := { s with comma := true, hashable := s.hashable && h, operand := .nothing }
  match s.enclosure with
  | .outside => return next
  | .round => return next
  | .call => none
  | .braces (some true) colon =>
    if colon then return { next with enclosure := .braces (some true) false } else none
  | .braces _ _ => if h then return { next with enclosure := .braces (some false) false } else none

/-- A colon ends the key of a dictionary. -/
def colon? (s : OpenLiteral) : Option OpenLiteral := do
  let h ← s.operand.hashable?
  match s.enclosure with
  | .braces dictionary false =>
    if h && dictionary ≠ some false then
      return { s with enclosure := .braces (some true) true, operand := .nothing }
    else none
  | _ => none

/-- The value in round brackets that are closed. Without a comma they may hold one value and change
nothing. -/
def closeRound? (s : OpenLiteral) : Option LiteralKind :=
  let tuple (h : Bool) : LiteralKind := if s.hashable && h then .hashable else .unhashable
  match s.enclosure, s.operand with
  | .call, .nothing => some .unhashable
  | .round, .nothing => some (tuple true)
  | .round, .value k =>
    if s.comma then s.operand.hashable?.map tuple
    else match k with
      | .quoted _ => some .hashable
      | k => some k
  | _, _ => none

/-- The value in braces that are closed. -/
def closeBraces? (s : OpenLiteral) : Option LiteralKind :=
  match s.enclosure with
  | .braces (some true) true => if s.operand.hashable?.isSome then some .unhashable else none
  | .braces (some true) false => if s.operand = .nothing then some .unhashable else none
  | .braces _ _ =>
    if s.operand = .nothing || s.operand.hashable? = some true then some .unhashable else none
  | _ => none

end OpenLiteral

/-- The open brackets, the innermost first, when a value has come. -/
def pushLiteral? (k : LiteralKind) : List OpenLiteral → Option (List OpenLiteral)
  | [] => none
  | s :: r => (s.operand.push? k).map fun o => { s with operand := o } :: r

/-- The open brackets, the innermost first, when a token has come. -/
def readLiteral? : List OpenLiteral → LiteralToken → Option (List OpenLiteral)
  | [], _ => none
  | s :: r, t =>
    match t with
    | .number imaginary => pushLiteral? (if imaginary then .imaginary else .real) (s :: r)
    | .quoted bytes => pushLiteral? (.quoted bytes) (s :: r)
    | .constant => pushLiteral? .hashable (s :: r)
    | .setName => pushLiteral? .setName (s :: r)
    | .mark c => match c with
      | '(' =>
        if s.operand = .value .setName then
          some ({ enclosure := .call } :: { s with operand := .nothing } :: r)
        else some ({ enclosure := .round } :: s :: r)
      | '\x7b' => some ({ enclosure := .braces none false } :: s :: r)
      | ')' => s.closeRound?.bind fun k => pushLiteral? k r
      | '\x7d' => s.closeBraces?.bind fun k => pushLiteral? k r
      | ',' => s.comma?.map (· :: r)
      | ':' => s.colon?.map (· :: r)
      | _ => s.operand.sign?.map fun o => { s with operand := o } :: r

/-- A line feed for each end of a line. -/
def unixLines : List Char → List Char
  | [] => []
  | '\r' :: '\n' :: r => '\n' :: unixLines r
  | c :: r => (if c = '\r' then '\n' else c) :: unixLines r

/-- The text is a literal. -/
def isLiteral (text : List Char) : Bool :=
  let reading : Option (List OpenLiteral) := do
    let (indented, cs) ← lineStart? false (unixLines text)
    if indented || cs.contains '\x00' then none
    else (← literalTokens? 0 cs).foldlM readLiteral? [{ enclosure := .outside }]
  match reading with
  | some [s] => s.operand.hashable?.isSome || (s.operand = .nothing && s.comma)
  | _ => false

end HouseRules.Styled
