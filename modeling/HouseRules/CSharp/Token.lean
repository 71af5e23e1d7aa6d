import HouseRules.Text.Blank

/-! # Tokens of C# source text

A source text is cut into words, literals, marks and brackets; blanks, comments and directive lines
lie between the tokens. Each token knows the bytes it covers.

Expressions in braces inside an interpolated string are source text again, so strings and
expressions alternate: the layers around a place say which of the two it belongs to. A hole in a
string counts as a kind of bracket of its own. -/

namespace HouseRules.CSharp

/-- The kinds of brackets. -/
inductive Bracket where
  /-- Round brackets. -/
  | round
  /-- Square brackets. -/
  | square
  /-- Curly braces. -/
  | curly
  /-- The braces of an expression in an interpolated string. -/
  | hole
  deriving DecidableEq, Repr

/-- What a token is. -/
inductive TokenKind where
  /-- A keyword or an identifier. -/
  | word
  /-- A number, a character or a string. -/
  | literal
  /-- A punctuation mark or an operator. -/
  | mark
  /-- An opening bracket. -/
  | opening (b : Bracket)
  /-- A closing bracket. -/
  | closing (b : Bracket)
  deriving DecidableEq, Repr

/-- A token with the bytes it covers. -/
structure Token where
  /-- What it is. -/
  kind : TokenKind
  /-- Its source text. -/
  text : String
  /-- The offset of its first byte. -/
  start : Nat
  /-- The offset after its last byte. -/
  stop : Nat
  deriving DecidableEq, Repr

/-! ### Lengths of what starts a text

Each function gives the number of characters up to the end of something that has already begun. -/

/-- The number of leading characters of a class. -/
def runLength (p : Char → Bool) (cs : List Char) : Nat := (cs.takeWhile p).length

/-- Up to and including the next quote that no backslash protects. -/
def escapedLength (quote : Char) : List Char → Nat
  | [] => 0
  | '\\' :: _ :: r => 2 + escapedLength quote r
  | c :: r => if c = quote then 1 else 1 + escapedLength quote r

/-- Up to and including the next quotation mark that is not doubled. -/
def doubledLength : List Char → Nat
  | [] => 0
  | '"' :: '"' :: r => 2 + doubledLength r
  | c :: r => if c = '"' then 1 else 1 + doubledLength r

/-- Up to and including the next run of at least `n` quotation marks. -/
def fencedLength (n : Nat) : List Char → Nat
  | [] => 0
  | c :: r =>
    let run := runLength (· == '"') (c :: r)
    if n ≤ run then run else 1 + fencedLength n r

/-- Up to and including the end of a block comment. -/
def commentLength : List Char → Nat
  | [] => 0
  | '*' :: '/' :: _ => 2
  | _ :: r => 1 + commentLength r

/-! ### Classes of characters -/

/-- A blank between tokens. -/
def isGap (c : Char) : Bool := Text.isBlank c || c == '\uFEFF'

/-- A character with which a word can start. A word may be written with escapes. -/
def startsWord (c : Char) : Bool :=
  c.isAlpha || c == '_' || c == '@' || c == '\\' || (128 ≤ c.toNat && !isGap c)

/-- A character within a word. -/
def continuesWord (c : Char) : Bool := c.isDigit || (startsWord c && c != '@')

/-- A character within a number. -/
def continuesNumber (c : Char) : Bool := c.isAlphanum || c == '_'

/-- The bracket that a character opens. -/
def opened? : Char → Option Bracket
  | '(' => some .round
  | '[' => some .square
  | '\x7b' => some .curly
  | _ => none

/-- The bracket that a character closes. -/
def closed? : Char → Option Bracket
  | ')' => some .round
  | ']' => some .square
  | '\x7d' => some .curly
  | _ => none

/-! ### Layers -/

/-- How an interpolated string is written. -/
structure Interpolated where
  /-- Quotation marks are doubled and backslashes are plain. -/
  verbatim : Bool
  /-- The number of quotation marks on either side: one, or at least three. -/
  quotes : Nat
  /-- The number of braces around an expression. -/
  braces : Nat
  deriving DecidableEq, Repr

/-- What a place belongs to. -/
inductive Layer where
  /-- The text of an interpolated string. -/
  | text (s : Interpolated)
  /-- An expression in an interpolated string, inside the given number of brackets. -/
  | hole (s : Interpolated) (depth : Nat)
  deriving DecidableEq, Repr

/-- One step through the text. -/
structure Step where
  /-- The number of characters that are passed. -/
  length : Nat
  /-- The token that they are, if they are one. -/
  kind? : Option TokenKind := none
  /-- The layers behind them. -/
  layers : List Layer

/-- A step in the text of an interpolated string. -/
def textStep (s : Interpolated) (outer : List Layer) (cs : List Char) : Step :=
  let here := Layer.text s :: outer
  let quotes := runLength (· == '"') cs
  let braces := runLength (· == '\x7b') cs
  let toHole : Nat → Step := fun n => ⟨n, some (.opening .hole), .hole s 0 :: outer⟩
  if s.quotes = 1 then
    if 0 < quotes then
      if s.verbatim && 2 ≤ quotes then ⟨2, none, here⟩ else ⟨1, none, outer⟩
    else if 2 ≤ braces then ⟨2, none, here⟩
    else if braces = 1 then toHole 1
    else if cs.head? = some '\\' && !s.verbatim then ⟨2, none, here⟩
    else ⟨1, none, here⟩
  else if 0 < quotes then
    if s.quotes ≤ quotes then ⟨quotes, none, outer⟩ else ⟨quotes, none, here⟩
  else if 0 < braces then
    if s.braces ≤ braces then toHole braces else ⟨braces, none, here⟩
  else ⟨1, none, here⟩

/-- The step over a string that starts here, if one does. A string that holds expressions is left
right behind its opening quotation marks. -/
def stringStep? (layers : List Layer) (cs : List Char) : Option Step :=
  let signs := cs.takeWhile fun c => c == '$' || c == '@'
  let braces := signs.count '$'
  let verbatim := signs.contains '@'
  let rest := cs.drop signs.length
  let quotes := runLength (· == '"') rest
  let literal := fun n => some ⟨signs.length + n, some TokenKind.literal, layers⟩
  if quotes = 0 then none
  else if verbatim then
    if braces = 0 then literal (1 + doubledLength (rest.drop 1))
    else some ⟨signs.length + 1, some .literal, .text ⟨true, 1, braces⟩ :: layers⟩
  else if quotes = 2 then literal 2
  else if braces = 0 then
    if quotes = 1 then literal (1 + escapedLength '"' (rest.drop 1))
    else literal (quotes + fencedLength quotes (rest.drop quotes))
  else some ⟨signs.length + quotes, some .literal, .text ⟨false, quotes, braces⟩ :: layers⟩

/-- The number of characters of the mark that starts a text. -/
def markLength : List Char → Nat
  | '=' :: '>' :: _ => 2
  | ':' :: ':' :: _ => 2
  | '?' :: '?' :: _ => 2
  | '?' :: '.' :: _ => 2
  | _ => 1

/-- The layers inside one more bracket. -/
def deeper : List Layer → List Layer
  | .hole s depth :: outer => .hole s (depth + 1) :: outer
  | layers => layers

/-- The step over a closing bracket. It may end the expression in a string. -/
def closingStep (b : Bracket) : List Layer → Step
  | .hole s 0 :: outer =>
    if b = .curly then ⟨s.braces, some (.closing .hole), .text s :: outer⟩
    else ⟨1, some (.closing b), .hole s 0 :: outer⟩
  | .hole s (depth + 1) :: outer => ⟨1, some (.closing b), .hole s depth :: outer⟩
  | layers => ⟨1, some (.closing b), layers⟩

/-- The step over a mark. A colon on the first level of an expression in a string starts a format,
which lasts up to the closing brace. -/
def markStep (layers : List Layer) (cs : List Char) : Step :=
  let length := markLength cs
  match layers with
  | .hole s 0 :: outer =>
    if cs.head? = some ':' && length = 1 then
      ⟨runLength (· != '\x7d') cs, none, .hole s 0 :: outer⟩
    else ⟨length, some .mark, layers⟩
  | _ => ⟨length, some .mark, layers⟩

/-- A step in source text. -/
def sourceStep (layers : List Layer) (c : Char) (r : List Char) : Step :=
  let cs := c :: r
  let skip := fun n => (⟨n, none, layers⟩ : Step)
  if isGap c then skip 1
  else if "//".toList.isPrefixOf cs || c == '#' then skip (runLength (· != '\n') cs)
  else if "/*".toList.isPrefixOf cs then skip (2 + commentLength (r.drop 1))
  else
    match stringStep? layers cs with
    | some s => s
    | none =>
      if c == '\'' then ⟨1 + escapedLength '\'' r, some .literal, layers⟩
      else if startsWord c then ⟨1 + runLength continuesWord r, some .word, layers⟩
      else if c.isDigit then ⟨runLength continuesNumber cs, some .literal, layers⟩
      else
        match opened? c, closed? c with
        | some b, _ => ⟨1, some (.opening b), deeper layers⟩
        | none, some b => closingStep b layers
        | none, none => markStep layers cs

/-- The next step. -/
def step (layers : List Layer) (c : Char) (r : List Char) : Step :=
  match layers with
  | .text s :: outer => textStep s outer (c :: r)
  | _ => sourceStep layers c r

/-- The number of bytes of some characters. -/
def byteLength (cs : List Char) : Nat := cs.foldr (fun c n => c.utf8Size + n) 0

/-- The tokens of a text that starts at a byte offset. -/
def tokensFrom (layers : List Layer) (offset : Nat) : List Char → List Token
  | [] => []
  | c :: r =>
    let s := step layers c r
    let here := c :: r.take (s.length - 1)
    let next := offset + byteLength here
    let later := tokensFrom s.layers next (r.drop (s.length - 1))
    match s.kind? with
    | some kind => ⟨kind, String.ofList here, offset, next⟩ :: later
    | none => later
termination_by cs => cs.length
decreasing_by simp only [List.length_drop, List.length_cons]; omega

/-- The tokens of a source text. -/
def tokens (source : String) : List Token := tokensFrom [] 0 source.toList

end HouseRules.CSharp
