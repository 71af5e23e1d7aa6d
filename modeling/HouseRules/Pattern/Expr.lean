import HouseRules.Text.Blank
import HouseRules.Text.Case
import HouseRules.Text.WordChar

/-! # Patterns

The expressions that paths and namespaces are searched with. How letters compare is settled when
an expression is read, so each leaf carries its own `Mode`. The width of an expression is the pair
of the fewest and the most characters that it can match. -/

namespace HouseRules.Pattern

/-- How the leaves of an expression compare characters. -/
structure Mode where
  /-- Upper and lower case are the same. -/
  ignoreCase : Bool := false
  /-- Only ASCII letters have a case, only ASCII characters belong to a class. -/
  ascii : Bool := false
  /-- Line ends count as ends of the text. -/
  multiline : Bool := false
  /-- Any character includes the line feed. -/
  dotAll : Bool := false
deriving DecidableEq, Repr

/-- A named class of characters. -/
inductive CharClass where
  /-- Decimal digits. -/
  | digit
  /-- White space. -/
  | space
  /-- Letters, digits and the underscore. -/
  | word
deriving DecidableEq, Repr

/-- An element of a character set. -/
inductive SetItem where
  /-- The code points from `lo` to `hi`. -/
  | range (lo hi : Nat)
  /-- The characters of a class, or the others. -/
  | cls (c : CharClass) (negated : Bool)
deriving DecidableEq, Repr

/-- A condition on a position of the text. -/
inductive Position where
  /-- The start of the text, or of a line. -/
  | lineStart
  /-- The end of the text, or of a line. -/
  | lineEnd
  /-- The start of the text. -/
  | textStart
  /-- The end of the text. -/
  | textEnd
  /-- Between a word character and another. -/
  | boundary
  /-- Not between a word character and another. -/
  | noBoundary
deriving DecidableEq, Repr

/-- How a repetition tries its counts. -/
inductive Greed where
  /-- The most first. -/
  | greedy
  /-- The fewest first. -/
  | lazy
  /-- As many as there are, with no way back. -/
  | possessive
deriving DecidableEq, Repr

/-- A pattern. -/
inductive Expr where
  /-- The empty text. -/
  | empty
  /-- One after the other. -/
  | seq (a b : Expr)
  /-- One or the other. -/
  | alt (a b : Expr)
  /-- One character of a set, or outside it. -/
  | oneOf (mode : Mode) (negated : Bool) (items : List SetItem)
  /-- Any character. -/
  | any (mode : Mode)
  /-- A condition on the position. -/
  | here (mode : Mode) (position : Position)
  /-- From `min` to `max` times. -/
  | rep (greed : Greed) (min : Nat) (max : Option Nat) (body : Expr)
  /-- A group, captured under a number if it has one. -/
  | group (index : Option Nat) (body : Expr)
  /-- The text captured by a group. -/
  | backref (mode : Mode) (index : Nat)
  /-- One expression if a group has captured, another if not. -/
  | ifGroup (index : Nat) (yes no : Expr)
  /-- What follows, or precedes by `behind` characters, matches or does not. -/
  | look (behind : Option Nat) (negated : Bool) (body : Expr)
  /-- A match with no way back into it. -/
  | atomic (body : Expr)
deriving Repr

/-- One after the other, for a list. -/
def Expr.ofList (es : List Expr) : Expr := es.foldr .seq .empty

/-- The bound above which widths are not told apart. -/
def maxWidth : Nat := Nat.pow 2 64

/-- The fewest and the most characters of a match. `groups` gives the widths of closed groups. -/
def Expr.width (groups : Nat → Nat × Nat) : Expr → Nat × Nat
  | empty => (0, 0)
  | seq a b =>
    let (al, ah) := a.width groups
    let (bl, bh) := b.width groups
    (min (al + bl) maxWidth, min (ah + bh) maxWidth)
  | alt a b =>
    let (al, ah) := a.width groups
    let (bl, bh) := b.width groups
    (min al bl, max ah bh)
  | oneOf .. => (1, 1)
  | any _ => (1, 1)
  | here .. => (0, 0)
  | rep _ lo hi body =>
    let (l, h) := body.width groups
    (min (l * lo) maxWidth,
      match hi with
      | none => if h = 0 then 0 else maxWidth
      | some hi => min (h * hi) maxWidth)
  | group _ body => body.width groups
  | backref _ i => groups i
  | ifGroup _ yes no =>
    let (yl, yh) := yes.width groups
    let (nl, nh) := no.width groups
    (min yl nl, max yh nh)
  | look .. => (0, 0)
  | atomic body => body.width groups

/-! ### Characters -/

/-- The lower case of a character in a mode. -/
def Mode.lower (m : Mode) (c : Char) : Char := if m.ascii then c.toLower else Text.lowerChar c

/-- The character belongs to the class. -/
def Mode.inClass (m : Mode) (k : CharClass) (c : Char) : Bool :=
  match k, m.ascii with
  | .digit, false => Text.isDecimal c
  | .digit, true => c.isDigit
  | .space, false => Text.isBlank c
  | .space, true => c == ' ' || (0x09 ≤ c.toNat && c.toNat ≤ 0x0D)
  | .word, false => Text.isWordChar c
  | .word, true => c.isAlphanum || c == '_'

/-- The code points that have the lower case `l`, itself included. -/
def lowerSources (l : Char) : List Nat :=
  l.toNat :: Text.lowerRuns.filterMap fun r =>
    let n : Int := l.toNat - r.shift
    if 0 ≤ n && r.covers n.toNat then some n.toNat else none

/-- The code points that are the same letter as one of lower case `l`. -/
def Mode.sameLetter (m : Mode) (l : Char) : List Nat :=
  if m.ascii then if l.isLower then [l.toNat, l.toUpper.toNat] else [l.toNat]
  else (l :: Text.variantsOf l).flatMap lowerSources

/-- The character belongs to the set. -/
def Mode.inSet (m : Mode) (items : List SetItem) (c : Char) : Bool :=
  if m.ignoreCase then
    let l := m.lower c
    let codes := m.sameLetter l
    items.any fun
      | .range lo hi => codes.any fun n => lo ≤ n && n ≤ hi
      | .cls k negated => m.inClass k l != negated
  else
    items.any fun
      | .range lo hi => lo ≤ c.toNat && c.toNat ≤ hi
      | .cls k negated => m.inClass k c != negated

/-- Two characters are the same in a mode. -/
def Mode.sameChar (m : Mode) (a b : Char) : Bool :=
  a == b || (m.ignoreCase && m.lower a == m.lower b)

end HouseRules.Pattern
