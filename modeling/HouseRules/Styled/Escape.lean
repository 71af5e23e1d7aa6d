import HouseRules.Styled.Text

/-! # Reading escape sequences

A text with escape sequences is read as styled text. Of each line only what follows its last carriage
return is kept. Sequences that switch styles change the style of what follows, also in later lines;
all other sequences are dropped.

Lines are cut at line feeds only, and behind a line feed at the end stands an empty line. A decoder
that knows other ends of lines, or that leaves such a line out, reads the same of a text without
them. -/

namespace HouseRules.Styled

/-! ### Style codes -/

/-- The codes that switch an attribute on. -/
def onCodes : List Nat := [1, 2, 3, 4, 5, 6, 7, 8, 9, 21, 51, 52, 53]

/-- The codes that switch attributes off, and these attributes. -/
def offCodes : List (Nat × List Nat) :=
  [(22, [1, 2]), (23, [3]), (24, [4]), (25, [5]), (26, [6]), (27, [7]), (28, [8]), (29, [9]),
    (54, [51, 52]), (55, [53])]

/-- The colour that a code switches to, given the code of the first dark colour. -/
def codeColor? (base code : Nat) : Option Color :=
  if base ≤ code && code < base + 8 then some (.standard (code - base))
  else if code = base + 9 then some .default
  else if base + 60 ≤ code && code < base + 68 then some (.standard (code - base - 52))
  else none

/-- The colour that the codes behind an extended colour code name, and the codes behind these. -/
def extendedColor? : List Nat → Option Color × List Nat
  | 5 :: n :: r => (some (if n < 16 then .standard n else .palette n), r)
  | 2 :: a :: b :: c :: r => (some (.rgb a b c), r)
  | 5 :: _ => (none, [])
  | 2 :: _ => (none, [])
  | _ :: r => (none, r)
  | [] => (none, [])

theorem extendedColor?_length (codes : List Nat) :
    (extendedColor? codes).2.length ≤ codes.length := by
  unfold extendedColor?
  split <;> simp <;> omega

/-- The style with a colour for the characters or behind them, if there is one. -/
def withColor (s : Style) (behind : Bool) : Option Color → Style
  | none => s
  | some c => if behind then { s with background := some c } else { s with color := some c }

/-- The style after one code that stands alone. -/
def applyCode (s : Style) (code : Nat) : Style :=
  if code = 0 then Style.plain
  else if onCodes.contains code then s.turnOn code
  else
    match offCodes.lookup code, codeColor? 30 code, codeColor? 40 code with
    | some off, _, _ => s.turnOff off
    | none, some c, _ => withColor s false (some c)
    | none, none, some c => withColor s true (some c)
    | none, none, none => s

/-- The style after some codes. -/
def applyCodes (s : Style) : List Nat → Style
  | [] => s
  | code :: r =>
    if code = 38 || code = 48 then
      have : (extendedColor? r).2.length ≤ r.length := extendedColor?_length r
      applyCodes (withColor s (code = 48) (extendedColor? r).1) (extendedColor? r).2
    else applyCodes (applyCode s code) r
termination_by codes => codes.length

/-- The codes between semicolons. Nothing is zero, and what is no number does not count. -/
def codesOf (cs : List Char) : List Nat :=
  (Search.pieces ';' cs).filterMap fun ds =>
    if ds.all Char.isDigit then some (min 255 (ds.foldl (fun n d => 10 * n + (d.toNat - 48)) 0))
    else none

/-! ### Sequences -/

/-- A sequence that starts with the escape character. -/
inductive Sequence where
  /-- Switches the style. -/
  | style (codes : List Nat)
  /-- Switches the character set; the next character is part of it. -/
  | charset
  /-- Does something else. -/
  | other
  deriving DecidableEq, Repr

/-- The character lies in a range. -/
def between (lo hi c : Char) : Bool := lo ≤ c && c ≤ hi

/-- The length of a command for the terminal, behind its introduction, if it has an end. -/
def commandLength? : List Char → Option Nat
  | [] => none
  | '\x1b' :: '\\' :: _ => some 2
  | _ :: r => (commandLength? r).map (· + 1)

/-- The sequence that starts behind an escape character, and its length without that character. -/
def sequence? : List Char → Option (Sequence × Nat)
  | [] => none
  | c :: r =>
    if between '0' '?' c then some (.other, 1)
    else if c = '(' then some (.charset, 1)
    else if c = '[' then
      let parameters := r.takeWhile (between '0' '?')
      let middle := (r.drop parameters.length).takeWhile (between ' ' '/')
      match r.drop (parameters.length + middle.length) with
      | [] => none
      | last :: _ =>
        let length := 2 + parameters.length + middle.length
        if !between '@' '~' last then none
        else if last = 'm' then some (.style (codesOf (parameters ++ middle)), length)
        else some (.other, length)
    else if c = ']' then
      match commandLength? r with
      | some n => some (.other, 1 + n)
      | none => some (.other, 1)
    else if between '@' 'Z' c || between '\\' '_' c then some (.other, 1)
    else none

/-- A piece of a line: characters or a style switch. -/
inductive Piece where
  /-- A character. -/
  | char (c : Char)
  /-- A style switch. -/
  | codes (codes : List Nat)
  /-- A sequence without a meaning here. -/
  | nothing

/-- The pieces of a line. A character behind a switch of the character set belongs to that, unless a
sequence starts with it. -/
def linePieces (swallow : Bool) : List Char → List Piece
  | [] => []
  | c :: r =>
    match if c = StyledText.escape then sequence? r else none with
    | some (s, n) =>
      let piece := match s with
        | .style codes => Piece.codes codes
        | _ => .nothing
      piece :: linePieces (s == .charset) (r.drop n)
    | none => if swallow then linePieces false r else .char c :: linePieces false r
termination_by cs => cs.length
decreasing_by all_goals (simp only [List.length_drop, List.length_cons]; omega)

/-- The spans of some pieces from a style on, and the style behind them. Every switch ends a span. -/
def spansOf (s : Style) : List Piece → StyledText × Style
  | [] => ([], s)
  | .codes codes :: r =>
    let (t, last) := spansOf (applyCodes s codes) r
    (⟨[], s⟩ :: t, last)
  | .nothing :: r =>
    let (t, last) := spansOf s r
    (⟨[], s⟩ :: t, last)
  | .char c :: r =>
    let (t, last) := spansOf s r
    match t with
    | [] => ([⟨[c], s⟩], last)
    | x :: t => (⟨c :: x.chars, s⟩ :: t, last)

/-- What follows the last carriage return of a line. -/
def afterReturn (cs : List Char) : List Char :=
  ((Search.pieces '\r' cs).getLast?).getD []

/-- The lines of a text from a style on. -/
def linesOf (s : Style) : List (List Char) → List StyledText
  | [] => []
  | l :: r =>
    let (t, next) := spansOf s (linePieces false (afterReturn l))
    t :: linesOf next r

/-- Lines joined by line feeds. -/
def joinLines : List StyledText → StyledText
  | [] => []
  | [l] => l
  | l :: r => l ++ ⟨['\n'], .plain⟩ :: joinLines r

/-- The styled text of a text with escape sequences, cut into lines at line feeds only. -/
def ofEscapes (text : String) : StyledText :=
  let t := joinLines (linesOf .plain (Search.pieces '\n' text.toList))
  (t.map fun s => { s with chars := kept s.chars }).filter (·.chars ≠ [])

end HouseRules.Styled
