import HouseRules.Styled.Emoji
import HouseRules.Styled.Literal
import HouseRules.Styled.StyleName
import HouseRules.Styled.Text
import HouseRules.Text.Quoted

/-! # Marked-up texts

Tags in square brackets switch styles in a text: `[bold]` until `[/bold]`, or until `[/]` for the
latest tag. A tag starts with a small letter or one of three signs and holds no opening bracket; all
other brackets are text. A backslash in front makes a tag text, two of them are one. Tags that name
no style have no effect, but they have to match all the same.

A tag whose name starts with `@` sets no style but a handler; when it is closed, its parameters have
to be a literal. -/

namespace HouseRules.Styled

/-- A tag: its name and what follows an equals sign in it. -/
structure Tag where
  /-- The name. -/
  name : String
  /-- What follows an equals sign. -/
  argument : Option String := none
  deriving DecidableEq, Repr

/-- Why a text is not well marked up. -/
inductive MarkupError where
  /-- A closing tag whose name no open tag has. -/
  | unmatched (tag : Tag) (position : Nat)
  /-- A closing tag without a name where no tag is open. -/
  | nothingOpen (position : Nat)
  /-- The parameters of a handler are no literal. -/
  | handler (parameters : String)
  /-- The share of a colour is no number. -/
  | share (digits : String)
  deriving DecidableEq, Repr

/-- A tag in writing. -/
def Tag.text (t : Tag) : String :=
  match t.argument with
  | none => "[" ++ t.name ++ "]"
  | some a => "[" ++ t.name ++ "=" ++ a ++ "]"

/-- The wording of an error. What is wrong with the parameters of a handler is left out. -/
def MarkupError.message : MarkupError → String
  | unmatched tag position =>
    s!"closing tag '{tag.text}' at position {position} doesn't match any open tag"
  | nothingOpen position => s!"closing tag '[/]' at position {position} has nothing to close"
  | handler parameters => s!"error parsing {Text.quoted parameters}"
  | share digits =>
    if digits.isEmpty then "invalid literal for int() with base 10: ''"
    else Text.tooManyDigits digits.length

/-! ### Pieces -/

/-- A piece of a marked-up text. -/
inductive MarkupPiece where
  /-- Text. -/
  | text (chars : List Char)
  /-- A tag and its position. -/
  | tag (t : Tag) (position : Nat)

/-- A tag can start with the character. -/
def startsTag (c : Char) : Bool := ('a' ≤ c && c ≤ 'z') || c == '#' || c == '/' || c == '@'

/-- The inside of the tag that starts behind an opening bracket. -/
def tagInside? (cs : List Char) : Option (List Char) :=
  let inside := cs.takeWhile fun c => c != ']' && c != '['
  if (inside.head?.map startsTag).getD false && (cs.drop inside.length).head? == some ']' then
    some inside
  else none

/-- The tag with the given inside. -/
def tagOf (inside : List Char) : Tag :=
  let name := inside.takeWhile (· != '=')
  { name := String.ofList name
    argument := if name.length < inside.length
      then some (String.ofList (inside.drop (name.length + 1))) else none }

/-- Puts a character in front of the first text. -/
def consText (c : Char) : List MarkupPiece → List MarkupPiece
  | .text cs :: r => .text (c :: cs) :: r
  | r => .text [c] :: r

/-- The number of backslashes in front of a tag that starts here, and the inside of the tag. -/
def tagAt? (cs : List Char) : Option (Nat × List Char) :=
  let slashes := (cs.takeWhile (· == '\\')).length
  match cs.drop slashes with
  | '[' :: r => (tagInside? r).map (slashes, ·)
  | _ => none

/-- The pieces of a text that starts at a position. -/
def markupPieces (position : Nat) : List Char → List MarkupPiece
  | [] => []
  | c :: r =>
    match tagAt? (c :: r) with
    | some (slashes, inside) =>
      let length := slashes + inside.length + 2
      let literal := MarkupPiece.text (List.replicate (slashes / 2) '\\')
      let piece := if slashes % 2 = 1 then MarkupPiece.text ('[' :: inside ++ [']'])
        else .tag (tagOf inside) (position + slashes)
      .text [] :: literal :: piece :: markupPieces (position + length) (r.drop (length - 1))
    | none => consText c (markupPieces (position + 1) r)
termination_by cs => cs.length
decreasing_by all_goals (simp only [List.length_drop, List.length_cons]; omega)

/-! ### Styles of tags -/

/-- What a text sets, if it describes a style. -/
def knownWords? (text : String) : Except MarkupError (Option StyleWords) :=
  match styleWords text with
  | .ok s => .ok (some s)
  | .error .unknown => .ok none
  | .error (.share digits) => .error (.share digits)

/-- The name by which a tag is matched: that of its style, or its own in lower case. -/
def tagName (name : String) : Except MarkupError String := do
  return ((← knownWords? name).map StyleWords.text).getD (Text.lower (Text.strip name))

/-- The tag with the name by which it is matched. -/
def Tag.canonical (t : Tag) : Except MarkupError Tag :=
  (fun name => { t with name }) <$> tagName t.name

/-- What a tag sets. -/
def Tag.words (t : Tag) : Except MarkupError StyleWords := do
  return (← knownWords? ((t.argument.map fun a => t.name ++ " " ++ a).getD t.name)).getD {}

/-- The style of open tags, the latest first. -/
def openStyle (tags : List Tag) : Style :=
  tags.reverse.foldl (fun s t => (t.words.toOption.getD {}).over s) .plain

/-! ### Closing tags -/

/-- What has to be a literal in the parameters of a handler: what stands in round brackets behind a
name, without these nothing, and all of the parameters if they are of another form. -/
def handlerLiteral (parameters : List Char) : List Char :=
  match parameters.dropWhile fun c => c == '.' || Text.isWordChar c with
  | [] => ['(', ')']
  | '(' :: r => if r.getLast? = some ')' && !r.contains '\n' then '(' :: r else parameters
  | _ => parameters

/-- The parameters of a handler have to be in order. -/
def Tag.checkHandler (t : Tag) : Except MarkupError Unit :=
  match t.name.toList, t.argument with
  | '@' :: _, some a =>
    if a.isEmpty || isLiteral (handlerLiteral (Text.strip a).toList) then .ok ()
    else .error (.handler a)
  | _, _ => .ok ()

/-- The latest tag with the given name, and the other tags. -/
def popTag? (name : String) : List Tag → Option (Tag × List Tag)
  | [] => none
  | t :: r => if t.name = name then some (t, r) else (popTag? name r).map fun (o, r) => (o, t :: r)

/-- The tag that a closing tag closes, and the other open tags. -/
def closedBy (t : Tag) (position : Nat) (tags : List Tag) : Except MarkupError (Tag × List Tag) :=
  let name := Text.strip (String.ofList (t.name.toList.drop 1))
  if name.isEmpty then
    match tags with
    | [] => .error (.nothingOpen position)
    | o :: r => .ok (o, r)
  else
    match tagName name with
    | .error e => .error e
    | .ok name => (popTag? name tags).elim (.error (.unmatched t position)) .ok

/-- The open tags after a closing tag. -/
def closeTag (t : Tag) (position : Nat) (tags : List Tag) : Except MarkupError (List Tag) := do
  let (o, rest) ← closedBy t position tags
  o.checkHandler
  return rest

/-! ### Styled text -/

/-- The characters with every protected bracket as a bracket. -/
def freeBrackets : List Char → List Char
  | [] => []
  | '\\' :: '[' :: r => '[' :: freeBrackets r
  | c :: r => c :: freeBrackets r

/-- The styled text of pieces inside open tags. Tags end spans; other pieces are joined. -/
def styledPieces (tags : List Tag) : List MarkupPiece → Except MarkupError StyledText
  | [] => .ok []
  | .text cs :: r => do
    let here := kept (withEmoji (freeBrackets cs))
    match ← styledPieces tags r with
    | [] => return [⟨here, openStyle tags⟩]
    | s :: t => return ⟨here ++ s.chars, s.style⟩ :: t
  | .tag t position :: r => do
    let tags' ← if t.name.toList.head? = some '/' then closeTag t position tags
      else (· :: tags) <$> t.canonical
    return ⟨[], openStyle tags⟩ :: (← styledPieces tags' r)

/-- The styles of all tags that open something can be read, also of those that no character is shown
in. -/
def checkWords : List MarkupPiece → Except MarkupError Unit
  | [] => .ok ()
  | .text _ :: r => checkWords r
  | .tag t _ :: r => do
    if t.name.toList.head? ≠ some '/' then
      let _ ← (← t.canonical).words
    checkWords r

/-- The styled text of a marked-up text. The styles are read when all tags are known to match. -/
def ofMarkup (text : String) : Except MarkupError StyledText := do
  let pieces := markupPieces 0 text.toList
  let t ← styledPieces [] pieces
  checkWords pieces
  return t.filter (·.chars ≠ [])

end HouseRules.Styled
