import HouseRules.Text.Utf8
import HouseRules.Yaml.Cursor

/-! # Reading YAML tokens

The lexer keeps the columns of the open block collections and, for each level of brackets, the place
where a key without a mark may have started. Such a key must be on one line and short; where the
indentation leaves no other choice it must be a key.

Loops carry a bound on the number of their rounds; each round passes at least one character, so the
length of the text is enough. -/

namespace HouseRules.Yaml

/-- A place where a key may have started. -/
structure PossibleKey where
  /-- The number of tokens before it. -/
  token : Nat
  /-- Nothing but a key can stand there. -/
  required : Bool
  /-- The place. -/
  index : Nat
  /-- Its line. -/
  line : Nat
  /-- Its column. -/
  column : Nat

/-- What the lexer keeps. -/
structure LexState where
  /-- The place in the text. -/
  cursor : Cursor
  /-- The number of open brackets. -/
  flowLevel : Nat := 0
  /-- The column of the innermost block collection. -/
  indent : Int := -1
  /-- The columns of the block collections around it, innermost first. -/
  indents : List Int := []
  /-- A key may start here. -/
  keyAllowed : Bool := true
  /-- Where keys may have started, by level of brackets. -/
  possibleKeys : List (Nat × PossibleKey) := []
  /-- The tokens so far, last first. -/
  tokens : List Token := []

/-- A part of reading tokens. -/
abbrev Lex := StateT LexState (Except Error)

namespace Lex

/-- The text is not well formed. -/
def refuse {α : Type} : Lex α := throw .malformed

/-- The character `k` places on. -/
def peekAt (k : Nat) : Lex Char := return (← get).cursor.peek k

/-- The next character. -/
def peek : Lex Char := peekAt 0

/-- Passes `n` characters. -/
def skip (n : Nat) : Lex Unit := modify fun s => { s with cursor := s.cursor.advance n }

/-- Takes the next `n` characters. -/
def take (n : Nat) : Lex (List Char) := do
  let cs := (← get).cursor.rest.take n
  skip n
  return cs

/-- Takes characters of a class. -/
def takeWhile (p : Char → Bool) : Lex (List Char) := do
  take ((← get).cursor.rest.takeWhile p).length

/-- Passes spaces. -/
def skipSpaces : Lex Unit := do let _ ← takeWhile (· == ' ')

/-- Passes the rest of a line that holds a comment, if it does. -/
def skipComment : Lex Unit := do
  if (← peek) == '#' then let _ ← takeWhile (!isBreakOrEnd ·)

/-- Takes the end of a line, if there is one: as a line feed, unless it is a separator of its own. -/
def takeBreak : Lex (Option Char) := do
  let c ← peek
  if c == '\u2028' || c == '\u2029' then
    skip 1
    return some c
  else if isBreak c then
    skip (if c == '\r' && (← peekAt 1) == '\n' then 2 else 1)
    return some '\n'
  else return none

/-- A bound for the rounds of a loop over the rest of the text. -/
def rounds : Lex Nat := return (← get).cursor.rest.length + 1

/-- Adds a token. -/
def push (t : Token) : Lex Unit := modify fun s => { s with tokens := t :: s.tokens }

/-- Adds a token behind the first `n` ones. -/
def insertAt (n : Nat) (t : Token) : Lex Unit :=
  modify fun s => { s with tokens := s.tokens.insertIdx (s.tokens.length - n) t }

/-- Says whether a key may start at the next token. -/
def allowKey (b : Bool) : Lex Unit := modify fun s => { s with keyAllowed := b }

/-! ### Keys without a mark -/

/-- Forgets the places of keys on other lines, or too far back. -/
def dropStaleKeys : Lex Unit := do
  let s ← get
  let stale := fun (k : PossibleKey) =>
    k.line != s.cursor.line || 1024 < s.cursor.index - k.index
  if s.possibleKeys.any fun (_, k) => stale k && k.required then refuse
  set { s with possibleKeys := s.possibleKeys.filter fun (_, k) => !stale k }

/-- Forgets the place of a key on this level of brackets. -/
def dropKey : Lex Unit := do
  let s ← get
  if (s.possibleKeys.lookup s.flowLevel).any (·.required) then refuse
  set { s with possibleKeys := s.possibleKeys.filter (·.1 != s.flowLevel) }

/-- Remembers the place as one where a key may start. -/
def saveKey : Lex Unit := do
  if (← get).keyAllowed then
    dropKey
    modify fun s =>
      let k : PossibleKey :=
        { token := s.tokens.length
          required := s.flowLevel == 0 && s.indent == s.cursor.column
          index := s.cursor.index
          line := s.cursor.line
          column := s.cursor.column }
      { s with possibleKeys := (s.flowLevel, k) :: s.possibleKeys }

/-! ### Indentation -/

/-- Closes the given number of block collections at most, as far as they are indented more than
`column`. -/
def closeBlocks (column : Int) : Nat → Lex Unit
  | 0 => pure ()
  | n + 1 => do
    let s ← get
    if column < s.indent then
      set { s with
        indent := s.indents.headD (-1), indents := s.indents.drop 1, tokens := .blockEnd :: s.tokens }
      closeBlocks column n

/-- Closes the block collections that are indented more than `column`. Inside brackets indentation
has no meaning. -/
def unwind (column : Int) : Lex Unit := do
  let s ← get
  if s.flowLevel == 0 then closeBlocks column (s.indents.length + 1)

/-- Opens a block collection at a column, if it is indented more than the innermost one. -/
def indentTo (column : Nat) : Lex Bool := do
  let s ← get
  if s.indent < column then
    set { s with indent := (column : Int), indents := s.indent :: s.indents }
    return true
  else return false

/-! ### Directives, names and tags -/

/-- Takes a decimal number. -/
def number : Lex Nat := do
  let ds ← takeWhile Char.isDigit
  if ds.isEmpty then refuse
  return ds.foldl (fun n d => 10 * n + (d.toNat - 48)) 0

/-- Takes a name of at least one character. -/
def name : Lex String := do
  let cs ← takeWhile isNameChar
  if cs.isEmpty then refuse
  return String.ofList cs

/-- Asks that the next character satisfies a condition. -/
def require (p : Char → Bool) : Lex Unit := do if !p (← peek) then refuse

/-- Takes the short form of a tag. -/
def tagHandle : Lex String := do
  require (· == '!')
  if (← peekAt 1) == ' ' then return String.ofList (← take 1)
  let inside := ((← get).cursor.rest.drop 1).takeWhile isNameChar
  if (← peekAt (inside.length + 1)) != '!' then refuse
  return String.ofList (← take (inside.length + 2))

/-- A character of a tag, an escape apart. -/
def isTagChar (c : Char) : Bool := c.isAlphanum || "-;/?:@&=+$,_.!~*'()[]".toList.contains c

/-- Takes a run of escaped bytes. -/
def tagEscapes : Nat → Lex Bytes
  | 0 => return []
  | n + 1 => do
    if (← peek) != '%' then return []
    skip 1
    let ds ← take 2
    if ds.length != 2 || !ds.all isHexDigit then refuse
    return (hexNumber ds).toUInt8 :: (← tagEscapes n)

/-- Takes the characters of a tag. -/
def tagChars : Nat → Lex (List Char)
  | 0 => return []
  | n + 1 => do
    let cs ← takeWhile isTagChar
    if (← peek) == '%' then
      match Utf8.decode (← tagEscapes (← rounds)) with
      | .ok s => return cs ++ s.toList ++ (← tagChars n)
      | .error _ => refuse
    else return cs

/-- Takes a tag, or a part of one. -/
def tagText : Lex String := do
  let cs ← tagChars (← rounds)
  if cs.isEmpty then refuse
  return String.ofList cs

/-- Takes the end of a line that may hold a comment. -/
def endLine : Lex Unit := do
  skipSpaces
  skipComment
  require isBreakOrEnd
  let _ ← takeBreak

/-- Takes a directive. -/
def directive : Lex Directive := do
  skip 1
  let n ← name
  require isSpaceOrEnd
  let d ← match n with
    | "YAML" =>
      skipSpaces
      let major ← number
      require (· == '.')
      skip 1
      let minor ← number
      require isSpaceOrEnd
      pure (Directive.version major minor)
    | "TAG" =>
      skipSpaces
      let handle ← tagHandle
      require (· == ' ')
      skipSpaces
      let start ← tagText
      require isSpaceOrEnd
      pure (Directive.shorthand handle start)
    | _ =>
      let _ ← takeWhile (!isBreakOrEnd ·)
      pure Directive.other
  endLine
  return d

/-- Takes the name of an anchor or an alias, with its sign. -/
def reference : Lex String := do
  skip 1
  let n ← name
  require fun c => isSeparator c || "?:,]\x7d%@\x60".toList.contains c
  return n

/-- Takes a tag. -/
def tag : Lex Token := do
  let next ← peekAt 1
  let t ← if next == '<' then do
      skip 2
      let rest ← tagText
      require (· == '>')
      skip 1
      pure (Token.tag none rest)
    else if isSeparator next then do
      skip 1
      pure (Token.tag none "!")
    else do
      let word := ((← get).cursor.rest.drop 1).takeWhile (!isSpaceOrEnd ·)
      let handle ← if word.contains '!' then tagHandle else do
        skip 1
        pure "!"
      pure (Token.tag (some handle) (← tagText))
  require isSpaceOrEnd
  return t

/-! ### Scalars in quotation marks -/

/-- The character that an escape of one letter stands for. -/
def shortEscape? : Char → Option Char
  | '0' => some '\x00'
  | 'a' => some '\x07'
  | 'b' => some '\x08'
  | 't' => some '\t'
  | '\t' => some '\t'
  | 'n' => some '\n'
  | 'v' => some '\x0B'
  | 'f' => some '\x0C'
  | 'r' => some '\r'
  | 'e' => some '\x1B'
  | ' ' => some ' '
  | '"' => some '"'
  | '\\' => some '\\'
  | '/' => some '/'
  | 'N' => some '\x85'
  | '_' => some '\xA0'
  | 'L' => some '\u2028'
  | 'P' => some '\u2029'
  | _ => none

/-- The number of digits of an escape by number. -/
def escapeDigits? : Char → Option Nat
  | 'x' => some 2
  | 'u' => some 4
  | 'U' => some 8
  | _ => none

/-- Takes the empty lines inside a quoted scalar. -/
def quotedBreaks : Nat → Lex (List Char)
  | 0 => return []
  | n + 1 => do
    if (← get).cursor.atSeparator then refuse
    let _ ← takeWhile fun c => c == ' ' || c == '\t'
    match ← takeBreak with
    | some c => return c :: (← quotedBreaks n)
    | none => return []

/-- Takes an escape, behind its backslash. -/
def escape : Lex (List Char) := do
  let c ← peek
  match shortEscape? c, escapeDigits? c with
  | some d, _ =>
    skip 1
    return [d]
  | none, some count =>
    skip 1
    let ds ← take count
    if ds.length != count || !ds.all isHexDigit then refuse
    let code := hexNumber ds
    if 0x10FFFF < code then throw (.noCharacter code)
    return [Char.ofNat code]
  | none, none =>
    if isBreak c then
      let _ ← takeBreak
      quotedBreaks (← rounds)
    else refuse

/-- Takes the characters of a quoted scalar up to a blank or its end. -/
def quotedWord (double : Bool) : Nat → Lex (List Char)
  | 0 => return []
  | n + 1 => do
    let cs ← takeWhile fun c => !(c == '\'' || c == '"' || c == '\\' || isSeparator c)
    let c ← peek
    if !double && c == '\'' && (← peekAt 1) == '\'' then
      skip 2
      return cs ++ '\'' :: (← quotedWord double n)
    else if (double && c == '\'') || (!double && (c == '"' || c == '\\')) then
      skip 1
      return cs ++ c :: (← quotedWord double n)
    else if double && c == '\\' then
      skip 1
      let e ← escape
      return cs ++ e ++ (← quotedWord double n)
    else return cs

/-- Takes the blanks inside a quoted scalar. One end of a line is a space, more of them are one
less. -/
def quotedBlanks : Lex (List Char) := do
  let blanks ← takeWhile fun c => c == ' ' || c == '\t'
  if (← peek) == endMark then refuse
  match ← takeBreak with
  | none => return blanks
  | some first =>
    let more ← quotedBreaks (← rounds)
    if first != '\n' then return first :: more
    else if more.isEmpty then return [' ']
    else return more

/-- Takes the rest of a quoted scalar. -/
def quotedRest (quote : Char) : Nat → Lex (List Char)
  | 0 => refuse
  | n + 1 => do
    if (← peek) == quote then
      skip 1
      return []
    let blanks ← quotedBlanks
    let word ← quotedWord (quote == '"') (← rounds)
    return blanks ++ word ++ (← quotedRest quote n)

/-- Takes a scalar in quotation marks. -/
def quoted (quote : Char) : Lex String := do
  skip 1
  let word ← quotedWord (quote == '"') (← rounds)
  return String.ofList (word ++ (← quotedRest quote (← rounds)))

/-! ### Block scalars -/

/-- What becomes of the line ends behind a block scalar. -/
inductive Chomping where
  /-- None is kept. -/
  | strip
  /-- One is kept. -/
  | clip
  /-- All are kept. -/
  | keep
  deriving DecidableEq, Repr

/-- Takes the sign for the line ends. -/
def chomping? : Lex (Option Chomping) := do
  match ← peek with
  | '+' =>
    skip 1
    return some .keep
  | '-' =>
    skip 1
    return some .strip
  | _ => return none

/-- Takes the digit for the indentation. -/
def increment? : Lex (Option Nat) := do
  let c ← peek
  if c == '0' then refuse
  else if c.isDigit then
    skip 1
    return some (c.toNat - 48)
  else return none

/-- Takes the signs of a block scalar, in either order. -/
def blockHeader : Lex (Chomping × Option Nat) := do
  let before ← chomping?
  let increment ← increment?
  let after ← if before.isNone && increment.isSome then chomping? else pure none
  require isSpaceOrEnd
  return ((before.or after).getD .clip, increment)

/-- Takes empty lines and spaces in front of a block scalar; gives the line ends and the greatest
column. -/
def blockMargin : Nat → Nat → Lex (List Char × Nat)
  | 0, widest => return ([], widest)
  | n + 1, widest => do
    if (← peek) == ' ' then
      skip 1
      blockMargin n (max widest (← get).cursor.column)
    else
      match ← takeBreak with
      | some c =>
        let (cs, w) ← blockMargin n widest
        return (c :: cs, w)
      | none => return ([], widest)

/-- Passes the spaces of an indentation. -/
def skipIndent (indent : Nat) : Lex Unit := do
  let s ← get
  let spaces := (s.cursor.rest.takeWhile (· == ' ')).length
  skip (min spaces (indent - s.cursor.column))

/-- Takes empty lines inside a block scalar. -/
def blockBreaks (indent : Nat) : Nat → Lex (List Char)
  | 0 => return []
  | n + 1 => do
    skipIndent indent
    match ← takeBreak with
    | some c => return c :: (← blockBreaks indent n)
    | none => return []

/-- The text goes on in the column. -/
def continuesAt (indent : Nat) : Lex Bool := do
  return (← get).cursor.column == indent && (← peek) != endMark

/-- Takes the lines of a block scalar; gives the text, the last line end and those behind it. -/
def blockLines (folded : Bool) (indent : Nat) :
    Nat → List Char → Lex (List Char × List Char × List Char)
  | 0, breaks => return ([], [], breaks)
  | n + 1, breaks => do
    let first ← peek
    let line ← takeWhile (!isBreakOrEnd ·)
    let lineEnd := (← takeBreak).toList
    let more ← blockBreaks indent (← rounds)
    if ← continuesAt indent then
      let isBlank := fun c => c == ' ' || c == '\t'
      let joint :=
        if folded && lineEnd == ['\n'] && !isBlank first && !isBlank (← peek) then
          if more.isEmpty then [' '] else []
        else lineEnd
      let (cs, last, behind) ← blockLines folded indent n more
      return (breaks ++ line ++ joint ++ cs, last, behind)
    else return (breaks ++ line, lineEnd, more)

/-- Takes a block scalar, folded or literal. -/
def block (folded : Bool) : Lex String := do
  skip 1
  let (chomping, increment) ← blockHeader
  endLine
  let least := (max ((← get).indent + 1) 1).toNat
  let (breaks, indent) ← match increment with
    | some i => do
      let indent := least + i - 1
      pure (← blockBreaks indent (← rounds), indent)
    | none => do
      let (breaks, widest) ← blockMargin (← rounds) 0
      pure (breaks, max least widest)
  let (text, lineEnd, behind) ←
    if ← continuesAt indent then blockLines folded indent (← rounds) breaks
    else pure ([], [], breaks)
  return String.ofList <| match chomping with
    | .strip => text
    | .clip => text ++ lineEnd
    | .keep => text ++ lineEnd ++ behind

/-! ### Plain scalars -/

/-- A character that brackets, commas and question marks make special inside brackets. -/
def isFlowSign (c : Char) : Bool := ",?[]\x7b\x7d".toList.contains c

/-- The number of characters of a plain scalar up to a blank or its end. -/
def plainLength (inFlow : Bool) : List Char → Nat
  | [] => 0
  | c :: r =>
    let next := r.headD endMark
    let colonEnds := c == ':' &&
      (isSeparator next || (inFlow && ",[]\x7b\x7d".toList.contains next))
    if isSeparator c || colonEnds || (inFlow && isFlowSign c) then 0 else 1 + plainLength inFlow r

/-- Takes empty lines and spaces inside a plain scalar; none if documents are separated there. -/
def plainBreaks : Nat → Lex (Option (List Char))
  | 0 => return some []
  | n + 1 => do
    skipSpaces
    match ← takeBreak with
    | none => return some []
    | some c =>
      if (← get).cursor.atSeparator then return none
      return (← plainBreaks n).map (c :: ·)

/-- Takes the blanks inside a plain scalar; none if it ends there. -/
def plainBlanks : Lex (List Char) := do
  let spaces ← takeWhile (· == ' ')
  match ← takeBreak with
  | none => return spaces
  | some first =>
    allowKey true
    if (← get).cursor.atSeparator then return []
    match ← plainBreaks (← rounds) with
    | none => return []
    | some more =>
      if first != '\n' then return first :: more
      else if more.isEmpty then return [' ']
      else return more

/-- Takes the words of a plain scalar. -/
def plainWords (indent : Int) : Nat → List Char → Lex (List Char)
  | 0, _ => return []
  | n + 1, blanks => do
    let s ← get
    let length := plainLength (s.flowLevel != 0) s.cursor.rest
    if (← peek) == '#' || length == 0 then return []
    allowKey false
    let word ← take length
    let next ← plainBlanks
    let s ← get
    if next.isEmpty || (← peek) == '#' || (s.flowLevel == 0 && s.cursor.column < indent) then
      return blanks ++ word
    return blanks ++ word ++ (← plainWords indent n next)

/-- Takes a plain scalar. -/
def plain : Lex String := do
  return String.ofList (← plainWords ((← get).indent + 1) (← rounds) [])

/-! ### Tokens -/

/-- Passes spaces, comments and ends of lines. Behind the end of a line a key may start, unless it is
inside brackets. -/
def skipToToken : Nat → Lex Unit
  | 0 => pure ()
  | n + 1 => do
    skipSpaces
    skipComment
    match ← takeBreak with
    | some _ =>
      if (← get).flowLevel == 0 then allowKey true
      skipToToken n
    | none => pure ()

/-- Ends what is open before a document or a directive begins or ends. -/
def endBlocks : Lex Unit := do
  unwind (-1)
  dropKey
  allowKey false

/-- An opening bracket. -/
def openFlow (t : Token) : Lex Unit := do
  saveKey
  modify fun s => { s with flowLevel := s.flowLevel + 1 }
  allowKey true
  skip 1
  push t

/-- A closing bracket. -/
def closeFlow (t : Token) : Lex Unit := do
  dropKey
  if (← get).flowLevel == 0 then refuse
  modify fun s => { s with flowLevel := s.flowLevel - 1 }
  allowKey false
  skip 1
  push t

/-- Opens a block collection here, if one starts. -/
def openBlock (t : Token) : Lex Unit := do
  let s ← get
  if s.flowLevel == 0 then
    if !s.keyAllowed then refuse
    if ← indentTo s.cursor.column then push t

/-- The dash of an entry. -/
def blockEntry : Lex Unit := do
  openBlock .blockSequenceStart
  allowKey true
  dropKey
  skip 1
  push .blockEntry

/-- The mark of a key. -/
def key : Lex Unit := do
  openBlock .blockMappingStart
  allowKey ((← get).flowLevel == 0)
  dropKey
  skip 1
  push .key

/-- The colon in front of a value. It makes what stands before it on the line a key. -/
def value : Lex Unit := do
  let s ← get
  match s.possibleKeys.lookup s.flowLevel with
  | some k =>
    set { s with possibleKeys := s.possibleKeys.filter (·.1 != s.flowLevel) }
    insertAt k.token .key
    if s.flowLevel == 0 then
      if ← indentTo k.column then insertAt k.token .blockMappingStart
    allowKey false
  | none =>
    openBlock .blockMappingStart
    allowKey (s.flowLevel == 0)
    dropKey
  skip 1
  push .value

/-- Something that may be a key. -/
def content (t : Lex Token) : Lex Unit := do
  saveKey
  allowKey false
  push (← t)

/-- A scalar of several lines. -/
def blockScalar (folded : Bool) : Lex Unit := do
  allowKey true
  dropKey
  push (.scalar (← block folded) false)

/-- A plain scalar can start with the characters. -/
def startsPlain (inFlow : Bool) (c next : Char) : Bool :=
  !(isSeparator c || "-?:,[]\x7b\x7d#&*!|>'\"%@\x60".toList.contains c) ||
    (!isSeparator next && (c == '-' || (!inFlow && (c == '?' || c == ':'))))

/-- The next tokens; says whether the text goes on. -/
def fetch : Lex Bool := do
  skipToToken (← rounds)
  dropStaleKeys
  unwind (← get).cursor.column
  let s ← get
  let c ← peek
  let next ← peekAt 1
  let inFlow := s.flowLevel != 0
  if c == endMark then
    endBlocks
    push .streamEnd
    return false
  if c == '%' && s.cursor.column == 0 then
    endBlocks
    push (.directive (← directive))
  else if s.cursor.column == 0 && s.cursor.atSeparator then
    endBlocks
    skip 3
    push (if c == '-' then .documentStart else .documentEnd)
  else if c == '[' then openFlow .flowSequenceStart
  else if c == '\x7b' then openFlow .flowMappingStart
  else if c == ']' then closeFlow .flowSequenceEnd
  else if c == '\x7d' then closeFlow .flowMappingEnd
  else if c == ',' then
    allowKey true
    dropKey
    skip 1
    push .flowEntry
  else if c == '-' && isSeparator next then blockEntry
  else if c == '?' && (inFlow || isSeparator next) then key
  else if c == ':' && (inFlow || isSeparator next) then value
  else if c == '*' then content (do return .alias (← reference))
  else if c == '&' then content (do return .anchor (← reference))
  else if c == '!' then content tag
  else if c == '|' && !inFlow then blockScalar false
  else if c == '>' && !inFlow then blockScalar true
  else if c == '\'' || c == '"' then content (do return .scalar (← quoted c) false)
  else if startsPlain inFlow c next then content (do return .scalar (← plain) true)
  else refuse
  return true

/-- All tokens up to the end of the text. -/
def fetchAll : Nat → Lex Unit
  | 0 => refuse
  | n + 1 => do if ← fetch then fetchAll n

end Lex

/-- The tokens of a text. -/
def tokens (text : String) : Except Error (List Token) := do
  let cs := text.toList
  if !cs.all isPrintable then throw .malformed
  let cursor : Cursor := { rest := cs }
  let cursor := if cs.head? == some '\uFEFF' then cursor.next else cursor
  let (_, s) ← (Lex.fetchAll (cs.length + 1)).run { cursor }
  return s.tokens.reverse

end HouseRules.Yaml
