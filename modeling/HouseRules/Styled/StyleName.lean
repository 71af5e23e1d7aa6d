import HouseRules.Styled.Style
import HouseRules.Text.Blank
import HouseRules.Text.Digit
import HouseRules.Text.Lower
import HouseRules.Text.WordChar

/-! # Names of styles

A style is described in words: attributes, by long or short names, `not` in front of an attribute, a
colour, `on` in front of the colour behind the characters, `link` in front of an address. Colours
have names or are given as `#rrggbb`, `color(n)` or `rgb(r,g,b)`. What a text
sets can be put into words again (`StyleWords.text`), in the same way for all texts that set it.

A share of red, green or blue that is no number is a fault of its own kind: it is not found to be no
colour, but cannot be read at all. -/

namespace HouseRules.Styled

/-- Why a text describes no style. -/
inductive StyleFault where
  /-- One of its words is not known. -/
  | unknown
  /-- The share of a colour is no number. -/
  | share (digits : String)
  deriving DecidableEq, Repr

/-! ### Colours -/

/-- The colours by name. -/
def colorNames : List (String × Nat) := [
  ("black", 0), ("red", 1), ("green", 2), ("yellow", 3), ("blue", 4), ("magenta", 5), ("cyan", 6),
  ("white", 7), ("bright_black", 8), ("bright_red", 9), ("bright_green", 10),
  ("bright_yellow", 11), ("bright_blue", 12), ("bright_magenta", 13), ("bright_cyan", 14),
  ("bright_white", 15), ("grey0", 16), ("gray0", 16), ("navy_blue", 17), ("dark_blue", 18),
  ("blue3", 20), ("blue1", 21), ("dark_green", 22), ("deep_sky_blue4", 25), ("dodger_blue3", 26),
  ("dodger_blue2", 27), ("green4", 28), ("spring_green4", 29), ("turquoise4", 30),
  ("deep_sky_blue3", 32), ("dodger_blue1", 33), ("green3", 40), ("spring_green3", 41),
  ("dark_cyan", 36), ("light_sea_green", 37), ("deep_sky_blue2", 38), ("deep_sky_blue1", 39),
  ("spring_green2", 47), ("cyan3", 43), ("dark_turquoise", 44), ("turquoise2", 45), ("green1", 46),
  ("spring_green1", 48), ("medium_spring_green", 49), ("cyan2", 50), ("cyan1", 51),
  ("dark_red", 88), ("deep_pink4", 125), ("purple4", 55), ("purple3", 56), ("blue_violet", 57),
  ("orange4", 94), ("grey37", 59), ("gray37", 59), ("medium_purple4", 60), ("slate_blue3", 62),
  ("royal_blue1", 63), ("chartreuse4", 64), ("dark_sea_green4", 71), ("pale_turquoise4", 66),
  ("steel_blue", 67), ("steel_blue3", 68), ("cornflower_blue", 69), ("chartreuse3", 76),
  ("cadet_blue", 73), ("sky_blue3", 74), ("steel_blue1", 81), ("pale_green3", 114),
  ("sea_green3", 78), ("aquamarine3", 79), ("medium_turquoise", 80), ("chartreuse2", 112),
  ("sea_green2", 83), ("sea_green1", 85), ("aquamarine1", 122), ("dark_slate_gray2", 87),
  ("dark_magenta", 91), ("dark_violet", 128), ("purple", 129), ("light_pink4", 95), ("plum4", 96),
  ("medium_purple3", 98), ("slate_blue1", 99), ("yellow4", 106), ("wheat4", 101), ("grey53", 102),
  ("gray53", 102), ("light_slate_grey", 103), ("light_slate_gray", 103), ("medium_purple", 104),
  ("light_slate_blue", 105), ("dark_olive_green3", 149), ("dark_sea_green", 108),
  ("light_sky_blue3", 110), ("sky_blue2", 111), ("dark_sea_green3", 150),
  ("dark_slate_gray3", 116), ("sky_blue1", 117), ("chartreuse1", 118), ("light_green", 120),
  ("pale_green1", 156), ("dark_slate_gray1", 123), ("red3", 160), ("medium_violet_red", 126),
  ("magenta3", 164), ("dark_orange3", 166), ("indian_red", 167), ("hot_pink3", 168),
  ("medium_orchid3", 133), ("medium_orchid", 134), ("medium_purple2", 140),
  ("dark_goldenrod", 136), ("light_salmon3", 173), ("rosy_brown", 138), ("grey63", 139),
  ("gray63", 139), ("medium_purple1", 141), ("gold3", 178), ("dark_khaki", 143),
  ("navajo_white3", 144), ("grey69", 145), ("gray69", 145), ("light_steel_blue3", 146),
  ("light_steel_blue", 147), ("yellow3", 184), ("dark_sea_green2", 157), ("light_cyan3", 152),
  ("light_sky_blue1", 153), ("green_yellow", 154), ("dark_olive_green2", 155),
  ("dark_sea_green1", 193), ("pale_turquoise1", 159), ("deep_pink3", 162), ("magenta2", 200),
  ("hot_pink2", 169), ("orchid", 170), ("medium_orchid1", 207), ("orange3", 172),
  ("light_pink3", 174), ("pink3", 175), ("plum3", 176), ("violet", 177), ("light_goldenrod3", 179),
  ("tan", 180), ("misty_rose3", 181), ("thistle3", 182), ("plum2", 183), ("khaki3", 185),
  ("light_goldenrod2", 222), ("light_yellow3", 187), ("grey84", 188), ("gray84", 188),
  ("light_steel_blue1", 189), ("yellow2", 190), ("dark_olive_green1", 192), ("honeydew2", 194),
  ("light_cyan1", 195), ("red1", 196), ("deep_pink2", 197), ("deep_pink1", 199), ("magenta1", 201),
  ("orange_red1", 202), ("indian_red1", 204), ("hot_pink", 206), ("dark_orange", 208),
  ("salmon1", 209), ("light_coral", 210), ("pale_violet_red1", 211), ("orchid2", 212),
  ("orchid1", 213), ("orange1", 214), ("sandy_brown", 215), ("light_salmon1", 216),
  ("light_pink1", 217), ("pink1", 218), ("plum1", 219), ("gold1", 220), ("navajo_white1", 223),
  ("misty_rose1", 224), ("thistle1", 225), ("yellow1", 226), ("light_goldenrod1", 227),
  ("khaki1", 228), ("wheat1", 229), ("cornsilk1", 230), ("grey100", 231), ("gray100", 231),
  ("grey3", 232), ("gray3", 232), ("grey7", 233), ("gray7", 233), ("grey11", 234), ("gray11", 234),
  ("grey15", 235), ("gray15", 235), ("grey19", 236), ("gray19", 236), ("grey23", 237),
  ("gray23", 237), ("grey27", 238), ("gray27", 238), ("grey30", 239), ("gray30", 239),
  ("grey35", 240), ("gray35", 240), ("grey39", 241), ("gray39", 241), ("grey42", 242),
  ("gray42", 242), ("grey46", 243), ("gray46", 243), ("grey50", 244), ("gray50", 244),
  ("grey54", 245), ("gray54", 245), ("grey58", 246), ("gray58", 246), ("grey62", 247),
  ("gray62", 247), ("grey66", 248), ("gray66", 248), ("grey70", 249), ("gray70", 249),
  ("grey74", 250), ("gray74", 250), ("grey78", 251), ("gray78", 251), ("grey82", 252),
  ("gray82", 252), ("grey85", 253), ("gray85", 253), ("grey89", 254), ("gray89", 254),
  ("grey93", 255), ("gray93", 255)]

/-- An entry of the palette. -/
def paletteColor (n : Nat) : Color := if n < 16 then .standard n else .palette n

/-- What stands between a word with an opening parenthesis and a closing one at the end. -/
def argument? (word : String) (cs : List Char) : Option (List Char) :=
  (Search.after? (word.toList ++ ['(']) cs).bind fun r =>
    if r.getLast? = some ')' then some r.dropLast else none

/-- The value of the digits of a share. There have to be some, but not too many. -/
def share? (ds : List Char) : Except StyleFault Nat :=
  if ds.isEmpty || Text.maxDigits < ds.length then .error (.share (String.ofList ds))
  else .ok (ds.foldl (fun n d => 10 * n + Text.decimalValue d) 0)

/-- The colour of three shares between commas. -/
def mixture? (cs : List Char) : Except StyleFault Color :=
  match Search.pieces ',' cs with
  | [r, g, b] => do
    let r ← share? r
    let g ← share? g
    let b ← share? b
    if r ≤ 255 && g ≤ 255 && b ≤ 255 then return .rgb r g b else throw .unknown
  | _ => .error .unknown

/-- The colour that is written in digits, in lower case. -/
def numberedColor? (cs : List Char) : Except StyleFault Color :=
  match cs, argument? "color" cs, argument? "rgb" cs with
  | '#' :: ds, _, _ =>
    let share (i : Nat) : Nat := Text.numberOf 16 ((ds.drop (2 * i)).take 2)
    if ds.length = 6 && ds.all Text.isHex then .ok (.rgb (share 0) (share 1) (share 2))
    else .error .unknown
  | _, some ds, _ =>
    let n := Text.numberOf 10 ds
    if ds.all Char.isDigit && 1 ≤ ds.length && ds.length ≤ 3 && n ≤ 255 then .ok (paletteColor n)
    else .error .unknown
  | _, _, some ds =>
    if !ds.isEmpty && ds.all (fun c => c == ',' || Text.isDecimal c) then mixture? ds
    else .error .unknown
  | _, _, _ => .error .unknown

/-- The colour that a word names. -/
def color? (word : String) : Except StyleFault Color :=
  let name := Text.strip (Text.lower word)
  if name = "default" then .ok .default
  else match colorNames.lookup name with
    | some n => .ok (paletteColor n)
    | none => numberedColor? name.toList

/-! ### Words -/

/-- The attributes by name: the full name, the short ones, the code. -/
def attributeNames : List (String × List String × Nat) := [
  ("bold", ["b"], 1), ("dim", ["d"], 2), ("italic", ["i"], 3), ("underline", ["u"], 4),
  ("blink", [], 5), ("blink2", [], 6), ("reverse", ["r"], 7), ("conceal", ["c"], 8),
  ("strike", ["s"], 9), ("underline2", ["uu"], 21), ("frame", [], 51), ("encircle", [], 52),
  ("overline", ["o"], 53)]

/-- The code of a named attribute. -/
def attribute? (word : String) : Option Nat :=
  (attributeNames.find? fun (name, short, _) => name == word || short.contains word).map (·.2.2)

/-- A colour and its name. -/
structure NamedColor where
  /-- The name. -/
  name : String
  /-- The colour. -/
  color : Color

/-- What words set: attributes on or off, colours, an address. -/
structure StyleWords where
  /-- The attributes by code. -/
  attributes : List (Nat × Bool) := []
  /-- The colour. -/
  color : Option NamedColor := none
  /-- The colour behind the characters. -/
  background : Option NamedColor := none
  /-- The address. -/
  link : Option String := none

/-- Sets an attribute. -/
def StyleWords.setAttribute (s : StyleWords) (code : Nat) (on : Bool) : StyleWords :=
  { s with attributes := (code, on) :: s.attributes.filter (·.1 != code) }

/-- The colour that a word names, with its name. -/
def namedColor? (word : String) : Except StyleFault NamedColor := do
  return ⟨Text.strip (Text.lower word), ← color? word⟩

/-- What words set on top of others. -/
def readWords : List String → StyleWords → Except StyleFault StyleWords
  | [], s => .ok s
  | word :: r, s =>
    match Text.lower word, r with
    | "on", color :: r => do readWords r { s with background := some (← namedColor? color) }
    | "not", name :: r =>
      match attribute? name with
      | some code => readWords r (s.setAttribute code false)
      | none => .error .unknown
    | "link", address :: r => readWords r { s with link := some address }
    | "on", [] => .error .unknown
    | "not", [] => .error .unknown
    | "link", [] => .error .unknown
    | name, r =>
      match attribute? name with
      | some code => readWords r (s.setAttribute code true)
      | none => do readWords r { s with color := some (← namedColor? name) }

/-- The words of a text. -/
def wordsOf (cs : List Char) : List String :=
  ((cs.splitBy fun a b => Text.isBlank a == Text.isBlank b).filter fun w =>
    !w.all Text.isBlank).map String.ofList

/-- What a text sets. -/
def styleWords (text : String) : Except StyleFault StyleWords :=
  if Text.strip text = "none" then .ok {} else readWords (wordsOf text.toList) {}

/-- The words for the attributes that are set. -/
def StyleWords.attributeWords (s : StyleWords) : List String :=
  attributeNames.filterMap fun (name, _, code) =>
    (s.attributes.lookup code).map fun on => if on then name else "not " ++ name

/-- The words for all that is set, in a fixed order. -/
def StyleWords.text (s : StyleWords) : String :=
  let words := s.attributeWords ++ (s.color.map (·.name)).toList ++
    (s.background.map fun c => "on " ++ c.name).toList ++ (s.link.map ("link " ++ ·)).toList
  if words.isEmpty then "none" else " ".intercalate words

/-! ### Styles -/

/-- The style with what words set on top of it. -/
def StyleWords.over (s : StyleWords) (base : Style) : Style :=
  let set (t : Style) (a : Nat × Bool) : Style := if a.2 then t.turnOn a.1 else t.turnOff [a.1]
  let t := s.attributes.foldl set base
  { t with
    color := (s.color.map (·.color)) <|> t.color
    background := (s.background.map (·.color)) <|> t.background }

end HouseRules.Styled
