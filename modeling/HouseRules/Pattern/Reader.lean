import HouseRules.Pattern.Error
import HouseRules.Pattern.Expr
import HouseRules.Text.CharName
import HouseRules.Text.Quoted

/-! # Reading patterns

A pattern is read from left to right, one token at a time; a token is a character, or a backslash
and the character after it. Reading stops at the first fault. The checks that need the whole
pattern come last: that a group asked for by number exists, and that what is looked for behind a
position has a fixed width.

`compile` is the whole of reading: it gives the expression of a text, or the first fault. -/

namespace HouseRules.Pattern

open Text (numberOf isHex isOctal)

/-! ### Tokens -/

/-- A unit of the text of a pattern. -/
inductive Tok where
  /-- A character. -/
  | plain (c : Char)
  /-- A backslash and a character. -/
  | escape (c : Char)
  /-- A backslash at the end of the text. -/
  | dangling
deriving DecidableEq, Repr

/-- The characters of a token. -/
def Tok.chars : Tok → List Char
  | plain c => [c]
  | escape c => ['\\', c]
  | dangling => ['\\']

/-- The text of a token. -/
def Tok.text (t : Tok) : String := String.ofList t.chars

/-- The number of characters of a token. -/
def Tok.size (t : Tok) : Nat := t.chars.length

/-- The tokens of a text. -/
def tokens : List Char → List Tok
  | [] => []
  | ['\\'] => [.dangling]
  | '\\' :: c :: r => .escape c :: tokens r
  | c :: r => .plain c :: tokens r

/-! ### The state of reading -/

/-- What has been read so far. -/
structure Progress where
  /-- The tokens to come. -/
  rest : List Tok
  /-- The position of the first of them. -/
  pos : Nat := 0
  /-- The letters of the flags for the whole pattern. -/
  flags : List Char := []
  /-- The named groups. -/
  names : List (String × Nat) := []
  /-- The width of each group, none while it is open. Number zero is no group. -/
  widths : List (Option (Nat × Nat)) := [none]
  /-- The number of groups where the outermost look behind began. -/
  lookbehind : Option Nat := none
  /-- The groups asked for by number, each with the position of the question. -/
  asked : List (Nat × Nat) := []
  /-- A fault that is reported when the pattern is otherwise sound. -/
  late : Option Error := none

/-- A computation that reads. -/
abbrev Read := StateT Progress (Except Error)

/-- A fault that lies `back` characters before the next token. -/
def failBack {α : Type} (back : Nat) (reason : String) : Read α := do
  throw (.malformed reason (some ((← get).pos - back)))

/-- A fault at a position. -/
def failAt {α : Type} (position : Nat) (reason : String) : Read α :=
  throw (.malformed reason (some position))

/-- The next token. -/
def peek : Read (Option Tok) := return (← get).rest.head?

/-- A backslash at the end is refused as soon as it comes next. -/
def checkNext : Read Unit := do
  let s ← get
  if s.rest.head? = some .dangling then failAt s.pos "bad escape (end of pattern)"

/-- Passes over the next token. -/
def advance : Read Unit := do
  match (← get).rest with
  | [] => pure ()
  | t :: r =>
    modify fun s => { s with rest := r, pos := s.pos + t.size }
    checkNext

/-- The next token, passed over. -/
def take : Read (Option Tok) := do
  let t ← peek
  advance
  return t

/-- Passes over the character if it comes next. -/
def accept (c : Char) : Read Bool := do
  if (← peek) = some (.plain c) then
    advance
    return true
  else return false

/-- The characters that come next and satisfy the test, at most `n`, passed over. -/
def takeChars (test : Char → Bool) : Nat → Read (List Char)
  | 0 => return []
  | n + 1 => do
    match ← peek with
    | some (.plain c) =>
      if test c then
        advance
        return c :: (← takeChars test n)
      else return []
    | _ => return []

/-- The number of tokens to come. -/
def remaining : Read Nat := return (← get).rest.length

/-- The characters before the terminator, which is passed over. -/
def takeUntil (terminator : Char) (name : String) : (fuel : Nat) → List Char → Read (List Char)
  | 0, done => return done
  | fuel + 1, done => do
    match ← take with
    | none =>
      if done.isEmpty then failBack 0 s!"missing {name}"
      else failBack done.length s!"missing {terminator}, unterminated name"
    | some t =>
      if t = .plain terminator then
        if done.isEmpty then failBack 1 s!"missing {name}" else return done
      else takeUntil terminator name fuel (done ++ t.chars)

/-- The text before the terminator. -/
def nameUntil (terminator : Char) (name : String) : Read String := do
  return String.ofList (← takeUntil terminator name ((← remaining) + 1) [])

/-! ### Digits and names -/

/-- The text can name a group. -/
def isName (s : String) : Bool :=
  match s.toList with
  | [] => false
  | c :: r => (c == '_' || (Text.isAlphanumeric c && !Text.isDecimal c)) && r.all Text.isWordChar

/-- Decimal digits, single underscores between them allowed. -/
def groupNumber? : (afterDigit : Bool) → (value : Nat) → List Char → Option Nat
  | afterDigit, n, [] => if afterDigit then some n else none
  | afterDigit, n, c :: r =>
    if Text.isDecimal c then groupNumber? true (10 * n + Text.decimalValue c) r
    else if c == '_' && afterDigit then groupNumber? false n r
    else none

/-- The number that a text writes: blanks around it and a sign are allowed, too many digits are
not. -/
def signedNumber? (s : String) : Option Nat :=
  let digits := (Text.strip s).toList
  if Text.maxDigits < digits.countP Text.isDecimal then none else match digits with
  | '+' :: r => groupNumber? false 0 r
  | '-' :: r => match groupNumber? false 0 r with
    | some 0 => some 0
    | _ => none
  | r => groupNumber? false 0 r

/-! ### Flags -/

/-- The letters of the flags. -/
def isFlag (c : Char) : Bool := ['i', 'L', 'm', 's', 'x', 'a', 't', 'u'].contains c

/-- The letters that choose an alphabet. -/
def isAlphabetFlag (c : Char) : Bool := ['L', 'a', 'u'].contains c

/-- The mode of a pattern with the given flags. -/
def modeOf (flags : List Char) : Mode where
  ignoreCase := flags.contains 'i'
  ascii := flags.contains 'a'
  multiline := flags.contains 'm'
  dotAll := flags.contains 's'

/-- The mode inside a group that turns flags on and off. -/
def Mode.switch (m : Mode) (on off : List Char) : Mode where
  ignoreCase := (m.ignoreCase || on.contains 'i') && !off.contains 'i'
  ascii := if on.any isAlphabetFlag then on.contains 'a' else m.ascii
  multiline := (m.multiline || on.contains 'm') && !off.contains 'm'
  dotAll := (m.dotAll || on.contains 's') && !off.contains 's'

/-- What a group says about flags. -/
inductive FlagChange where
  /-- Flags for the whole pattern. -/
  | global
  /-- Flags turned on and off inside the group. -/
  | scoped (on off : List Char)

/-- A letter is expected where `t` stands. -/
def wrongFlag {α : Type} (t : Tok) (missing : String) : Read α :=
  let isLetter := match t with
    | .plain c => Text.isAlphanumeric c && !Text.isDecimal c
    | _ => false
  failBack t.size (if isLetter then "unknown flag" else missing)

/-- Reads the flags that are turned on, the first of which is `c`. Gives them and the mark that
ends them. -/
def readOn : (fuel : Nat) → (c : Char) → List Char → Read (List Char × Char)
  | 0, c, on => return (on, c)
  | fuel + 1, c, on => do
    if c = 'L' then failBack 0 "bad inline flags: cannot use 'L' flag with a str pattern"
    let on := c :: on
    if isAlphabetFlag c && on.any fun d => isAlphabetFlag d && d != c then
      failBack 0 "bad inline flags: flags 'a', 'u' and 'L' are incompatible"
    match ← take with
    | none => failBack 0 "missing -, : or )"
    | some t =>
      match t with
      | .plain d =>
        if d = ')' || d = '-' || d = ':' then return (on, d)
        else if isFlag d then readOn fuel d on
        else wrongFlag t "missing -, : or )"
      | _ => wrongFlag t "missing -, : or )"

/-- Reads the flags that are turned off, the first of which is `c`, up to a colon. -/
def readOff : (fuel : Nat) → (c : Char) → List Char → Read (List Char)
  | 0, _, off => return off
  | fuel + 1, c, off => do
    if isAlphabetFlag c then
      failBack 0 "bad inline flags: cannot turn off flags 'a', 'u' and 'L'"
    let off := c :: off
    match ← take with
    | none => failBack 0 "missing :"
    | some t =>
      match t with
      | .plain d =>
        if d = ':' then return off
        else if isFlag d then readOff fuel d off
        else wrongFlag t "missing :"
      | _ => wrongFlag t "missing :"

/-- Reads the flags of a group, after their first mark `c`. -/
def readFlags (c : Char) : Read FlagChange := do
  let fuel := (← remaining) + 1
  let (on, mark) ← if c = '-' then pure ([], '-') else readOn fuel c []
  if mark = ')' then
    modify fun s => { s with flags := on ++ s.flags }
    return .global
  if on.contains 't' then failBack 1 "bad inline flags: cannot turn on global flag"
  let off ← if mark = '-' then
      match ← take with
      | none => failBack 0 "missing flag"
      | some t =>
        match t with
        | .plain d => if isFlag d then readOff fuel d [] else wrongFlag t "missing flag"
        | _ => wrongFlag t "missing flag"
    else pure []
  if off.contains 't' then failBack 1 "bad inline flags: cannot turn off global flag"
  if on.any off.contains then failBack 1 "bad inline flags: flag turned on and off"
  return .scoped on off

/-! ### Escapes -/

/-- The control character of an escape. -/
def controlEscape? : Char → Option Nat
  | 'a' => some 0x07
  | 'b' => some 0x08
  | 'f' => some 0x0C
  | 'n' => some 0x0A
  | 'r' => some 0x0D
  | 't' => some 0x09
  | 'v' => some 0x0B
  | '\\' => some 0x5C
  | _ => none

/-- The character class of an escape. -/
def classEscape? : Char → Option SetItem
  | 'd' => some (.cls .digit false)
  | 'D' => some (.cls .digit true)
  | 's' => some (.cls .space false)
  | 'S' => some (.cls .space true)
  | 'w' => some (.cls .word false)
  | 'W' => some (.cls .word true)
  | _ => none

/-- The condition of an escape. -/
def positionEscape? : Char → Option Position
  | 'A' => some .textStart
  | 'b' => some .boundary
  | 'B' => some .noBoundary
  | 'Z' => some .textEnd
  | _ => none

/-- The code point of exactly `n` hexadecimal digits. -/
def hexEscape (c : Char) (n : Nat) : Read Nat := do
  let ds ← takeChars isHex n
  let text := String.ofList ('\\' :: c :: ds)
  if ds.length ≠ n then failBack text.length s!"incomplete escape {text}"
  let code := numberOf 16 ds
  if code > 0x10FFFF then failBack text.length s!"bad escape {text}"
  return code

/-- The code point of a named character. -/
def namedEscape : Read Nat := do
  if !(← accept '\x7b') then failBack 0 "missing \x7b"
  let name ← nameUntil '\x7d' "character name"
  match Text.charNamed? name with
  | some code => return code
  | none => failBack (name.length + 4) s!"undefined character name {Text.quoted name}"

/-- The code point of an escape that is common to sets and expressions. -/
def codeEscape? (c : Char) : Read (Option Nat) := do
  match c with
  | 'x' => return some (← hexEscape c 2)
  | 'u' => return some (← hexEscape c 4)
  | 'U' => return some (← hexEscape c 8)
  | 'N' => return some (← namedEscape)
  | _ => return none

/-- The code point of octal digits, refused above 255. -/
def octalCode (ds : List Char) : Read Nat := do
  let code := numberOf 8 ds
  if code > 0xFF then
    let text := String.ofList ('\\' :: ds)
    failBack text.length s!"octal escape value {text} outside of range 0-0o377"
  return code

/-- The code point of an escaped character that stands for itself. -/
def selfEscape (c : Char) : Read Nat := do
  if c.isAlphanum then failBack 2 ("bad escape " ++ String.ofList ['\\', c])
  return c.toNat

/-- An escape inside a set. -/
def setEscape (c : Char) : Read SetItem := do
  let one (n : Nat) : SetItem := .range n n
  match controlEscape? c, classEscape? c with
  | some n, _ => return one n
  | none, some item => return item
  | none, none =>
    match ← codeEscape? c with
    | some n => return one n
    | none =>
      if isOctal c then return one (← octalCode (c :: (← takeChars isOctal 2)))
      else return one (← selfEscape c)

/-- The reference to a group must be to a closed one, and not to one of the same look behind. -/
def checkLookbehind (index : Nat) : Read Unit := do
  let s ← get
  match s.lookbehind with
  | none => pure ()
  | some bound =>
    if (s.widths[index]?.join).isNone then failBack 0 "cannot refer to an open group"
    if bound ≤ index then
      failBack 0 "cannot refer to group defined in the same lookbehind subpattern"

/-- A reference to a group that ends `back` characters before the next token. -/
def groupReference (mode : Mode) (index back : Nat) : Read Expr := do
  if ((← get).widths[index]?.join).isNone then failBack back "cannot refer to an open group"
  checkLookbehind index
  return .backref mode index

/-- An escape that starts with a digit other than zero: three octal digits, or a group. -/
def digitEscape (mode : Mode) (c : Char) : Read Expr := do
  let one (n : Nat) : Expr := .oneOf mode false [.range n n]
  let more ← takeChars Char.isDigit 1
  let ds := c :: more
  if more.length = 1 && ds.all isOctal then
    let third ← takeChars isOctal 1
    if third.length = 1 then return one (← octalCode (ds ++ third))
  let index := numberOf 10 ds
  if index < (← get).widths.length then groupReference mode index (ds.length + 1)
  else failBack ds.length s!"invalid group reference {index}"

/-- An escape outside a set. -/
def exprEscape (mode : Mode) (c : Char) : Read Expr := do
  let one (n : Nat) : Expr := .oneOf mode false [.range n n]
  match positionEscape? c, classEscape? c, controlEscape? c with
  | some p, _, _ => return .here mode p
  | none, some item, _ => return .oneOf mode false [item]
  | none, none, some n => return one n
  | none, none, none =>
    match ← codeEscape? c with
    | some n => return one n
    | none =>
      if c = '0' then return one (numberOf 8 (c :: (← takeChars isOctal 2)))
      else if c.isDigit then digitEscape mode c
      else return one (← selfEscape c)

/-! ### Sets -/

/-- An element of a set, given by its first token. -/
def setElement : Tok → Read SetItem
  | .plain c => return .range c.toNat c.toNat
  | .escape c => setEscape c
  | .dangling => return .range 0x5C 0x5C

/-- The range from one element to another. -/
def rangeOf (first last : Tok) (a b : SetItem) : Read SetItem := do
  let bad : Read SetItem :=
    failBack (first.size + 1 + last.size) s!"bad character range {first.text}-{last.text}"
  match a, b with
  | .range lo _, .range hi _ => if hi < lo then bad else return .range lo hi
  | _, _ => bad

/-- The elements of a set up to its closing bracket. `start` is where the set began. -/
def setItems (start : Nat) : (fuel : Nat) → List SetItem → Read (List SetItem)
  | 0, items => return items
  | fuel + 1, items => do
    match ← take with
    | none => failAt start "unterminated character set"
    | some t =>
      if t = .plain ']' && !items.isEmpty then return items
      let a ← setElement t
      if ← accept '-' then
        match ← take with
        | none => failAt start "unterminated character set"
        | some u =>
          if u = .plain ']' then return items ++ [a, .range 0x2D 0x2D]
          let b ← setElement u
          setItems start fuel (items ++ [← rangeOf t u a b])
      else setItems start fuel (items ++ [a])

/-- A set, after its opening bracket. -/
def readSet (mode : Mode) : Read Expr := do
  let start := (← get).pos - 1
  let negated ← accept '^'
  return .oneOf mode negated (← setItems start ((← remaining) + 1) [])

/-! ### Repetitions -/

/-- The least count that is out of bounds. -/
def countBound : Nat := 4294967295

/-- The count that digits write. -/
def readCount (ds : List Char) : Read Nat := do
  if Text.maxDigits < ds.length then throw (.tooManyDigits ds.length)
  let n := numberOf 10 ds
  if countBound ≤ n then throw .countTooLarge
  return n

/-- The counts between braces, after the opening one; none if it is an ordinary character. -/
def readBraces : Read (Option (Nat × Option Nat)) := do
  let s ← get
  if s.rest.head? = some (.plain '\x7d') then return none
  let fuel := s.rest.length
  let lo ← takeChars Char.isDigit fuel
  let hi ← if ← accept ',' then takeChars Char.isDigit fuel else pure lo
  if !(← accept '\x7d') then
    set s
    return none
  let least ← if lo.isEmpty then pure 0 else readCount lo
  if hi.isEmpty then return some (least, none)
  let most ← readCount hi
  if most < least then failAt s.pos "min repeat greater than max repeat"
  return some (least, some most)

/-- The expression may be repeated. -/
def checkRepeatable (position : Nat) : Option Expr → Read Expr
  | none => failAt position "nothing to repeat"
  | some (.here ..) => failAt position "nothing to repeat"
  | some (.rep ..) => failAt position "multiple repeat"
  | some e => return e

/-- The repetition of the last expression. `position` is where the repetition mark stands. -/
def readRepetition (position lo : Nat) (hi : Option Nat) (last : Option Expr) : Read Expr := do
  let e ← checkRepeatable position last
  if ← accept '?' then return .rep .lazy lo hi e
  else if ← accept '+' then return .rep .possessive lo hi e
  else return .rep .greedy lo hi e

/-! ### Groups and sequences -/

/-- What surrounds a sequence. -/
structure Scope where
  /-- The mode of its leaves. -/
  mode : Mode
  /-- Blanks and comments are skipped. -/
  verbose : Bool
  /-- It stands in no group. -/
  top : Bool
  /-- It is the first alternative. -/
  first : Bool

/-- What a token does to the sequence that is being read. -/
inductive Effect where
  /-- Another expression follows. -/
  | push (e : Expr)
  /-- The last expression is replaced. -/
  | replace (e : Expr)
  /-- Nothing. -/
  | skip
  /-- The flags of the whole pattern have changed. -/
  | newFlags

/-- How a group's contents are read. -/
structure Inner where
  /-- Reads alternatives. -/
  alternatives : Scope → Read Expr
  /-- Reads one alternative. -/
  single : Scope → Read Expr

/-- The group must be closed. -/
def closeGroup (start : Nat) : Read Unit := do
  if !(← accept ')') then failAt start "missing ), unterminated subpattern"

/-- Enters a new group. -/
def openGroup (name : Option String) : Read Nat := do
  let index := (← get).widths.length
  match name with
  | none => pure ()
  | some n =>
    match (← get).names.find? (·.1 == n) with
    | some (_, old) =>
      failBack (n.length + 1)
        s!"redefinition of group name {Text.quoted n} as group {index}; was group {old}"
    | none => modify fun s => { s with names := s.names ++ [(n, index)] }
  modify fun s => { s with widths := s.widths ++ [none] }
  return index

/-- The widths of the closed groups. -/
def Progress.widthOf (s : Progress) (index : Nat) : Nat × Nat := (s.widths[index]?.join).getD (0, 0)

/-- Reads the contents of a captured group. -/
def captureGroup (inner : Inner) (c : Scope) (start : Nat) (name : Option String) : Read Expr := do
  let index ← openGroup name
  let body ← inner.alternatives { c with top := false, first := false }
  closeGroup start
  modify fun s => { s with widths := s.widths.set index (some (body.width s.widthOf)) }
  return .group (some index) body

/-- Reads the contents of a group that is not captured. -/
def plainGroup (inner : Inner) (c : Scope) (start : Nat) (on off : List Char) : Read Expr := do
  let scope : Scope :=
    { mode := c.mode.switch on off
      verbose := (c.verbose || on.contains 'x') && !off.contains 'x'
      top := false
      first := false }
  let body ← inner.alternatives scope
  closeGroup start
  return .group none body

/-- The name must be one that a group can have. -/
def checkName (name : String) : Read Unit := do
  if !isName name then
    failBack (name.length + 1) s!"bad character in group name {Text.quoted name}"

/-- The number of a named group. -/
def groupNamed (name : String) : Read Nat := do
  match (← get).names.find? (·.1 == name) with
  | some (_, index) => return index
  | none => failBack (name.length + 1) s!"unknown group name {Text.quoted name}"

/-- Passes over a comment. -/
def skipComment (start : Nat) : (fuel : Nat) → Read Unit
  | 0 => return ()
  | fuel + 1 => do
    if (← peek).isNone then failAt start "missing ), unterminated comment"
    if (← take) = some (.plain ')') then return ()
    skipComment start fuel

/-- Reads a condition on what follows or precedes. -/
def readLook (inner : Inner) (c : Scope) (start : Nat) (behind negated : Bool) : Read Expr := do
  let outer := (← get).lookbehind
  if behind && outer.isNone then
    modify fun s => { s with lookbehind := some s.widths.length }
  let body ← inner.alternatives { c with top := false, first := false }
  if behind then modify fun s => { s with lookbehind := outer }
  closeGroup start
  if !behind then return .look none negated body
  let (lo, hi) := body.width (← get).widthOf
  let fault : Option Error :=
    if lo > 4294967295 then some (.malformed "looks too much behind" none)
    else if lo ≠ hi then some (.malformed "look-behind requires fixed-width pattern" none)
    else none
  modify fun s => { s with late := s.late <|> fault }
  return .look (some lo) negated body

/-- The number of the group that a condition names. -/
def conditionGroup (name : String) : Read Nat := do
  if isName name then groupNamed name
  else
    let back := name.length + 1
    match signedNumber? name with
    | none => failBack back s!"bad character in group name {Text.quoted name}"
    | some 0 => failBack back "bad group number"
    | some index =>
      if 1073741823 ≤ index then failBack back s!"invalid group reference {index}"
      modify fun s =>
        if s.asked.any (·.1 == index) then s else { s with asked := s.asked ++ [(index, s.pos - back)] }
      return index

/-- Reads a choice that depends on a group. -/
def readCondition (inner : Inner) (c : Scope) (start : Nat) : Read Expr := do
  let index ← conditionGroup (← nameUntil ')' "group name")
  checkLookbehind index
  let scope : Scope := { c with top := false, first := false }
  let yes ← inner.single scope
  let no ← if ← accept '|' then do
      let no ← inner.single scope
      if (← peek) = some (.plain '|') then
        failBack 0 "conditional backref with more than two branches"
      pure no
    else pure Expr.empty
  closeGroup start
  return .ifGroup index yes no

/-- Reads a group with a name, or a reference to one. -/
def readNamed (inner : Inner) (c : Scope) (start : Nat) : Read Expr := do
  if ← accept '<' then
    let name ← nameUntil '>' "group name"
    checkName name
    captureGroup inner c start (some name)
  else if ← accept '=' then
    let name ← nameUntil ')' "group name"
    checkName name
    groupReference c.mode (← groupNamed name) (name.length + 1)
  else
    match ← take with
    | none => failBack 0 "unexpected end of pattern"
    | some t => failBack (t.size + 2) s!"unknown extension ?P{t.text}"

/-- Reads a group whose opening bracket and question mark have been passed. -/
def readExtension (inner : Inner) (c : Scope) (start : Nat) (atStart : Bool) : Read Effect := do
  match ← take with
  | none => failBack 0 "unexpected end of pattern"
  | some (.plain 'P') => return .push (← readNamed inner c start)
  | some (.plain ':') => return .push (← plainGroup inner c start [] [])
  | some (.plain '#') =>
    skipComment start ((← remaining) + 1)
    return .skip
  | some (.plain '=') => return .push (← readLook inner c start false false)
  | some (.plain '!') => return .push (← readLook inner c start false true)
  | some (.plain '<') =>
    match ← take with
    | none => failBack 0 "unexpected end of pattern"
    | some (.plain '=') => return .push (← readLook inner c start true false)
    | some (.plain '!') => return .push (← readLook inner c start true true)
    | some t => failBack (t.size + 2) s!"unknown extension ?<{t.text}"
  | some (.plain '(') => return .push (← readCondition inner c start)
  | some (.plain '>') =>
    let body ← inner.alternatives { c with top := false, first := false }
    closeGroup start
    return .push (.atomic body)
  | some t =>
    match t with
    | .plain d =>
      if isFlag d || d = '-' then
        match ← readFlags d with
        | .global =>
          if !(c.top && c.first && atStart) then
            failAt start "global flags not at the start of the expression"
          return .newFlags
        | .scoped on off => return .push (← plainGroup inner c start on off)
      else failBack (t.size + 1) s!"unknown extension ?{t.text}"
    | _ => failBack (t.size + 1) s!"unknown extension ?{t.text}"

/-- Reads a group whose opening bracket has been passed. -/
def readGroup (inner : Inner) (c : Scope) (atStart : Bool) : Read Effect := do
  let start := (← get).pos - 1
  if ← accept '?' then readExtension inner c start atStart
  else return .push (← captureGroup inner c start none)

/-- Passes over a comment that ends with its line. -/
def skipLine : (fuel : Nat) → Read Unit
  | 0 => return ()
  | fuel + 1 => do
    match ← take with
    | none => return ()
    | some t => if t = .plain '\n' then return () else skipLine fuel

/-- The characters that are skipped between expressions in a verbose pattern. -/
def isLayout (c : Char) : Bool := [' ', '\t', '\n', '\r', '\x0b', '\x0c'].contains c

/-- Reads what a token, already passed, starts. `last` is the last expression of the sequence. -/
def readToken (inner : Inner) (c : Scope) (t : Tok) (last : Option Expr) : Read Effect := do
  let here := (← get).pos
  let literal (d : Char) : Effect := .push (.oneOf c.mode false [.range d.toNat d.toNat])
  let repetition (lo : Nat) (hi : Option Nat) : Read Effect := do
    return .replace (← readRepetition (here - 1) lo hi last)
  match t with
  | .escape d => return .push (← exprEscape c.mode d)
  | .dangling => return literal '\\'
  | .plain d =>
    if c.verbose && isLayout d then return .skip
    else if c.verbose && d = '#' then
      skipLine ((← remaining) + 1)
      return .skip
    else match d with
      | '[' => return .push (← readSet c.mode)
      | '?' => repetition 0 (some 1)
      | '*' => repetition 0 none
      | '+' => repetition 1 none
      | '\x7b' =>
        match ← readBraces with
        | none => return literal d
        | some (lo, hi) => repetition lo hi
      | '.' => return .push (.any c.mode)
      | '(' => readGroup inner c last.isNone
      | '^' => return .push (.here c.mode .lineStart)
      | '$' => return .push (.here c.mode .lineEnd)
      | _ => return literal d

/-- Reads alternatives, each by `single`. -/
def readAlternatives (single : Scope → Read Expr) : (fuel : Nat) → Scope → Read Expr
  | 0, c => single c
  | fuel + 1, c => do
    let e ← single c
    if ← accept '|' then
      let flags := (← get).flags
      let next : Scope :=
        if c.top then
          { c with mode := modeOf flags, verbose := flags.contains 'x', first := false }
        else c
      return .alt e (← readAlternatives single fuel next)
    else return e

/-- Reads a sequence up to its end, an alternative or a closing bracket. The expressions read so
far come with the last one first. -/
def readSequence : (fuel : Nat) → Scope → List Expr → Read Expr
  | 0, _, done => return Expr.ofList done.reverse
  | fuel + 1, c, done => do
    match ← peek with
    | none => return Expr.ofList done.reverse
    | some t =>
      if t = .plain '|' || t = .plain ')' then return Expr.ofList done.reverse
      advance
      let inner : Inner :=
        { alternatives := readAlternatives (fun c => readSequence fuel c []) fuel
          single := fun c => readSequence fuel c [] }
      match ← readToken inner c t done.head? with
      | .push e => readSequence fuel c (e :: done)
      | .replace e => readSequence fuel c (e :: done.tail)
      | .skip => readSequence fuel c done
      | .newFlags =>
        let flags := (← get).flags
        readSequence fuel { c with mode := modeOf flags, verbose := flags.contains 'x' } done

/-- Reads a whole pattern. -/
def readPattern (fuel : Nat) : Read Expr := do
  checkNext
  let top : Scope := { mode := {}, verbose := false, top := true, first := true }
  let e ← readAlternatives (fun c => readSequence fuel c []) fuel top
  let s ← get
  if s.flags.contains 'a' && s.flags.contains 'u' then throw .twoAlphabets
  if !s.rest.isEmpty then failBack 0 "unbalanced parenthesis"
  match s.asked.find? fun (index, _) => s.widths.length ≤ index with
  | some (index, position) => failAt position s!"invalid group reference {index}"
  | none => pure ()
  match s.late with
  | some fault => throw fault
  | none => return e

/-- The expression of a text, or why it has none. -/
def compile (text : String) : Except Error Expr :=
  let toks := tokens text.toList
  (readPattern (toks.length + 2)).run' { rest := toks }

end HouseRules.Pattern
