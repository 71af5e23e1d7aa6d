import HouseRules.Styled.Wrap

/-! # Panels

A panel is a frame of a given width around some text, with a title in its upper edge. The text is
broken to the width between the edges, and each line is filled up with spaces. -/

namespace HouseRules.Styled

/-- A run of the edge of a panel. -/
def edge (n : Nat) : List Char := List.replicate n '─'

/-- A frame of the given width and look, with a title. -/
structure Frame where
  /-- The width with both edges. -/
  width : Nat
  /-- The look of the edges. -/
  style : Style
  /-- The title. -/
  title : StyledText

namespace Frame

/-- A part of the edge. -/
def part (f : Frame) (cs : List Char) : Span := ⟨cs, f.style⟩

/-- The title in the middle of the upper edge, cut if it is too long. The left part of the edge is
the shorter one. -/
def titleLine (f : Frame) : StyledText :=
  let room := f.width - 4
  let title := crop room (f.title.map fun s => { s with style := f.style.coveredBy s.style })
  let excess := room - Text.cellWidth (StyledText.chars title)
  f.part (edge (excess / 2)) :: title ++ [f.part (edge (excess - excess / 2))]

/-- The upper edge. A narrow panel has no room for a title. -/
def top (f : Frame) : StyledText :=
  if f.width ≤ 4 then [f.part ('╭' :: edge (f.width - 2) ++ ['╮'])]
  else f.part ['╭', '─'] :: f.titleLine ++ [f.part ['─', '╮']]

/-- The lower edge. -/
def bottom (f : Frame) : StyledText := [f.part ('╰' :: edge (f.width - 2) ++ ['╯'])]

/-- A line of text between the edges. -/
def side (f : Frame) (line : StyledText) : StyledText :=
  let fill := f.width - 4 - Text.cellWidth (StyledText.chars line)
  f.part ['│'] :: ⟨[' '], .plain⟩ :: line ++ [⟨List.replicate (fill + 1) ' ', .plain⟩, f.part ['│']]

/-- The lines of a panel around a text. -/
def lines (f : Frame) (text : StyledText) : List StyledText :=
  f.top :: (wrap (f.width - 4) text).map f.side ++ [f.bottom]

end Frame
end HouseRules.Styled
