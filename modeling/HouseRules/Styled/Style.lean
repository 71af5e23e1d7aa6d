/-! # Styles

How a piece of text looks on a terminal: attributes such as bold, a colour and a background. A
style is written as the list of its codes; colours outside the sixteen that every terminal has are
written as the nearest of these. -/

namespace HouseRules.Styled

/-- A colour. -/
inductive Color where
  /-- The colour of unstyled text. -/
  | default
  /-- One of the sixteen colours that every terminal has. -/
  | standard (n : Nat)
  /-- An entry of the palette of 256 colours. -/
  | palette (n : Nat)
  /-- A mixture of red, green and blue. -/
  | rgb (r g b : Nat)
deriving DecidableEq, Repr

/-- The sixteen colours as mixtures. -/
def standardPalette : List (Nat × Nat × Nat) := [
  (0, 0, 0), (170, 0, 0), (0, 170, 0), (170, 85, 0), (0, 0, 170), (170, 0, 170), (0, 170, 170),
  (170, 170, 170), (85, 85, 85), (255, 85, 85), (85, 255, 85), (255, 255, 85), (85, 85, 255),
  (255, 85, 255), (85, 255, 255), (255, 255, 255)]

/-- The first sixteen entries of the palette of 256 colours. -/
def lowPalette : List (Nat × Nat × Nat) := [
  (0, 0, 0), (128, 0, 0), (0, 128, 0), (128, 128, 0), (0, 0, 128), (128, 0, 128), (0, 128, 128),
  (192, 192, 192), (128, 128, 128), (255, 0, 0), (0, 255, 0), (255, 255, 0), (0, 0, 255),
  (255, 0, 255), (0, 255, 255), (255, 255, 255)]

/-- The strength of a level of the colour cube. -/
def cubeLevel (n : Nat) : Nat := if n = 0 then 0 else 55 + 40 * n

/-- An entry of the palette of 256 colours as a mixture. -/
def paletteEntry (n : Nat) : Nat × Nat × Nat :=
  if n < 16 then lowPalette[n]?.getD (0, 0, 0)
  else if n < 232 then
    (cubeLevel ((n - 16) / 36), cubeLevel ((n - 16) / 6 % 6), cubeLevel ((n - 16) % 6))
  else
    let grey := 8 + 10 * (n - 232)
    (grey, grey, grey)

/-- How far two mixtures are apart to the eye. -/
def colorDistance (a b : Nat × Nat × Nat) : Nat :=
  let square (x y : Nat) : Nat := (max x y - min x y) * (max x y - min x y)
  let mean := (a.1 + b.1) / 2
  (512 + mean) * square a.1 b.1 / 256 + 4 * square a.2.1 b.2.1 +
    (767 - mean) * square a.2.2 b.2.2 / 256

/-- One step of the search for the nearest colour. -/
def nearestStep (c : Nat × Nat × Nat) (best : Option (Nat × Nat)) (i : Nat)
    (d : Nat × Nat × Nat) : Option (Nat × Nat) :=
  let dist := colorDistance c d
  match best with
  | some (b, old) => if dist < old then some (i, dist) else some (b, old)
  | none => some (i, dist)

/-- The number of the nearest of the sixteen colours. -/
def nearestStandard (c : Nat × Nat × Nat) : Nat :=
  let best := standardPalette.zipIdx.foldl (fun best (d, i) => nearestStep c best i d) none
  (best.map (·.1)).getD 0

/-- The number of a colour among the sixteen, none for the colour of unstyled text. -/
def Color.number? : Color → Option Nat
  | default => none
  | standard n => some n
  | palette n => some (if n < 16 then n else nearestStandard (paletteEntry n))
  | rgb r g b => some (nearestStandard (r, g, b))

/-- The code of a colour, given the code of the first dark one. -/
def Color.code (base : Nat) (c : Color) : Nat :=
  match c.number? with
  | none => base + 9
  | some n => if n < 8 then base + n else base + 52 + n

/-- The look of a piece of text. -/
structure Style where
  /-- The codes of the attributes, in increasing order. -/
  attributes : List Nat := []
  /-- The colour of the characters. -/
  color : Option Color := none
  /-- The colour behind them. -/
  background : Option Color := none
deriving DecidableEq, Repr

namespace Style

/-- Unstyled. -/
def plain : Style := {}

/-- The codes of a style: its attributes, its colour, its background. -/
def codes (s : Style) : List Nat :=
  s.attributes ++ (s.color.map (Color.code 30)).toList ++ (s.background.map (Color.code 40)).toList

/-- Puts a code into an increasing list. -/
def insertCode (n : Nat) : List Nat → List Nat
  | [] => [n]
  | m :: r => if n < m then n :: m :: r else if n = m then m :: r else m :: insertCode n r

/-- The style with an attribute. -/
def turnOn (s : Style) (code : Nat) : Style := { s with attributes := insertCode code s.attributes }

/-- The style without some attributes. -/
def turnOff (s : Style) (codes : List Nat) : Style :=
  { s with attributes := s.attributes.filter (!codes.contains ·) }

/-- The first style, with the second over it. -/
def coveredBy (s t : Style) : Style where
  attributes := t.attributes.foldl (fun l n => insertCode n l) s.attributes
  color := t.color <|> s.color
  background := t.background <|> s.background

/-- Bold. -/
def bold : Style := { attributes := [1] }

/-- One of the eight dark colours. -/
def dark (n : Nat) : Style := { color := some (.standard n) }

/-- Red. -/
def red : Style := dark 1
/-- Green. -/
def green : Style := dark 2
/-- Yellow. -/
def yellow : Style := dark 3
/-- Blue. -/
def blue : Style := dark 4
/-- Magenta. -/
def magenta : Style := dark 5
/-- Cyan. -/
def cyan : Style := dark 6

end Style
end HouseRules.Styled
