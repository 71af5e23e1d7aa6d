import HouseRules.Styled.Text
import HouseRules.Text.Blank

/-! # Breaking lines

A line is broken in front of words, so that its parts fit into a width. The blanks behind a word
belong to it, but only the word itself has to fit. A word that is wider than a whole line is cut
wherever a line is full. -/

namespace HouseRules.Styled

/-- The length of the first word of a line with the blanks around it; zero if there is none. -/
def wordLength (cs : List Char) : Nat :=
  let lead := (cs.takeWhile Text.isBlank).length
  let body := ((cs.drop lead).takeWhile (!Text.isBlank ·)).length
  let tail := ((cs.drop (lead + body)).takeWhile Text.isBlank).length
  if body = 0 then 0 else lead + body + tail

/-- The words of a line with the blanks behind them; the first has those in front, too. -/
def words (cs : List Char) : List (List Char) :=
  if _h : wordLength cs = 0 ∨ cs = [] then []
  else cs.take (wordLength cs) :: words (cs.drop (wordLength cs))
termination_by cs.length
decreasing_by
  have : 0 < cs.length := List.length_pos_iff.2 fun e => _h (.inr e)
  have : wordLength cs ≠ 0 := fun e => _h (.inl e)
  simp only [List.length_drop]
  omega

/-- A word cut into parts that fit into a width; `used` columns of the first part are taken. -/
def chop (width used : Nat) : List Char → List (List Char)
  | [] => [[]]
  | c :: r =>
    let w := Text.charWidth c
    if width < used + w then [] :: StyledText.consPiece c (chop width w r)
    else StyledText.consPiece c (chop width (used + w) r)

/-- The offsets of the breaks inside a word that starts at an offset, and the columns of its last
part. -/
def chopBreaks (start : Nat) : List (List Char) → List Nat × Nat
  | [] => ([], 0)
  | [p] => (if start = 0 then [] else [start], Text.cellWidth p)
  | p :: r =>
    let (breaks, last) := chopBreaks (start + p.length) r
    ((if start = 0 then [] else [start]) ++ breaks, last)

/-- The word without the blanks behind it. -/
def bareWord (w : List Char) : List Char := Search.dropEndWhile Text.isBlank w

/-- The offsets at which a line of words is broken. The first word starts at `start`, and `used`
columns are taken. -/
def breaks (width start used : Nat) : List (List Char) → List Nat
  | [] => []
  | w :: r =>
    let next := start + w.length
    let size := Text.cellWidth (bareWord w)
    if used + size ≤ width then breaks width next (used + Text.cellWidth w) r
    else if width < size then
      let (inside, last) := chopBreaks start (chop width 0 w)
      inside ++ breaks width next last r
    else if used = 0 || start = 0 then breaks width next used r
    else start :: breaks width next (Text.cellWidth w) r

/-- The parts of a line between offsets. -/
def cutAt (done : Nat) : List Nat → StyledText → List StyledText
  | [], t => [t]
  | n :: r, t =>
    let (a, b) := StyledText.splitAt (n - done) t
    a :: cutAt n r b

/-- The line without blanks at its end, as far as it has more than `width` characters. -/
def dropExcess (width : Nat) (t : StyledText) : StyledText :=
  let cs := StyledText.chars t
  let blanks := cs.length - (bareWord cs).length
  StyledText.takeChars (cs.length - min blanks (cs.length - width)) t

/-- The columns of a screen whose size is not known. -/
def usualColumns : Nat := 80

/-- The text with its escape sequences, tabs as spaces, on a screen that trims lines which are wider
than it is. -/
def ansiTrimmed (columns : Nat) (t : StyledText) : String :=
  String.ofList (Search.join ['\n'] ((StyledText.lines t).map fun l =>
    StyledText.ansiLine (dropExcess columns (StyledText.expandTabs l))))

/-- The characters that fit into a width. A wide character in the last column becomes a space. -/
def cropChars (width : Nat) : List Char → List Char
  | [] => []
  | c :: r =>
    let w := Text.charWidth c
    if w ≤ width then c :: cropChars (width - w) r
    else if 0 < width then List.replicate width ' '
    else []

/-- The line cut to a width. -/
def crop (width : Nat) : StyledText → StyledText
  | [] => []
  | s :: r =>
    let w := Text.cellWidth s.chars
    if w ≤ width then s :: crop (width - w) r
    else [⟨cropChars width s.chars, s.style⟩]

/-- The parts of a line, each of which fits into a width. -/
def wrapLine (width : Nat) (t : StyledText) : List StyledText :=
  let line := StyledText.expandTabs t
  let offsets := breaks width 0 0 (words (StyledText.chars line))
  (cutAt 0 offsets line).map fun part => crop width (dropExcess width part)

/-- The lines of a text, broken to a width. -/
def wrap (width : Nat) (t : StyledText) : List StyledText :=
  (StyledText.lines t).flatMap (wrapLine width)

end HouseRules.Styled
