import HouseRules.Text.Blank
import HouseRules.Text.Case
import HouseRules.Text.EmojiName

/-! # Emoji in texts

A name between colons is replaced by its emoji. What stands between two colons is looked at once: if
it is no name, both colons are passed. -/

namespace HouseRules.Styled

/-- The endings that say how an emoji is to look, and the characters that say so. -/
def emojiLooks : List (List Char × Char) := [("-emoji".toList, '\uFE0F'), ("-text".toList, '\uFE0E')]

/-- A name and how it is to look. -/
def splitLook (cs : List Char) : List Char × Option Char :=
  match emojiLooks.find? fun (ending, _) => ending.isSuffixOf cs with
  | some (ending, look) => (cs.take (cs.length - ending.length), some look)
  | none => (cs, none)

/-- The emoji of what stands between two colons. -/
def emoji? (cs : List Char) : Option (List Char) :=
  let (name, look) := splitLook cs
  (Text.namedEmoji? (name.map Text.lowerChar)).map (· ++ look.toList)

/-- What stands between a colon and the next one, if no blank comes first. -/
def untilColon? : List Char → Option (List Char)
  | [] => none
  | c :: r =>
    if c = ':' then some []
    else if Text.isBlank c then none
    else (untilColon? r).map (c :: ·)

/-- The text with its emoji. -/
def withEmoji : List Char → List Char
  | [] => []
  | c :: r =>
    match if c = ':' then untilColon? r else none with
    | some cs => (emoji? cs).getD (':' :: cs ++ [':']) ++ withEmoji (r.drop (cs.length + 1))
    | none => c :: withEmoji r
termination_by cs => cs.length
decreasing_by all_goals (simp only [List.length_drop, List.length_cons]; omega)

end HouseRules.Styled
