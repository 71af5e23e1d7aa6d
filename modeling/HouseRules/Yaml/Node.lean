import HouseRules.Yaml.Lexer
import HouseRules.Yaml.Tag

/-! # Nodes of YAML

A document is a node: a scalar, a sequence or a mapping, each with its tag. An alias stands for the
node that has the anchor; inside of a collection an alias may stand for the collection itself.

The grammar is read from the tokens by recursion. Each call passes a token or hands over to one that
does, so a bound of a few calls per token is enough. -/

namespace HouseRules.Yaml

/-- A node. -/
inductive Node where
  /-- A scalar. -/
  | scalar (tag text : String)
  /-- A sequence. -/
  | sequence (tag : String) (items : List Node)
  /-- A mapping. -/
  | mapping (tag : String) (entries : List (Node × Node))
  /-- The sequence, or else the mapping, around this place. -/
  | around (isSequence : Bool)

namespace Node

/-- A scalar without characters, whose type is open. -/
def empty : Node := scalar (coreTag "null") ""

/-- What reading nodes keeps. -/
structure State where
  /-- The tokens that are left. -/
  tokens : List Token
  /-- The nodes with an anchor. -/
  anchors : List (String × Node) := []
  /-- The short forms of tags. -/
  handles : List (String × String) := []

/-- A part of reading nodes. -/
abbrev Read := StateT State (Except Error)

/-- The tokens are not well formed. -/
def refuse {α : Type} : Read α := throw .malformed

/-- The next token. -/
def peek : Read Token := return (← get).tokens.headD .streamEnd

/-- Passes a token. -/
def skip : Read Unit := modify fun s => { s with tokens := s.tokens.drop 1 }

/-- The next token is one of the given ones. -/
def nextIn (ts : List Token) : Read Bool := return ts.contains (← peek)

/-- Passes the given token, which must be the next. -/
def expect (t : Token) : Read Unit := do if (← peek) == t then skip else refuse

/-- An anchor and a tag, if they stand here. -/
structure Properties where
  /-- The anchor. -/
  anchor : Option String := none
  /-- The tag. -/
  tag : Option String := none

/-- The whole tag of a short form and the rest. -/
def wholeTag (handle : Option String) (rest : String) : Read String := do
  match handle with
  | none => return rest
  | some h =>
    match (← get).handles.lookup h with
    | some start => return start ++ rest
    | none => refuse

/-- Takes an anchor and a tag in either order. -/
def properties : Read Properties := do
  match ← peek with
  | .anchor a =>
    skip
    match ← peek with
    | .tag h r =>
      skip
      return { anchor := some a, tag := some (← wholeTag h r) }
    | _ => return { anchor := some a }
  | .tag h r =>
    skip
    match ← peek with
    | .anchor a =>
      skip
      return { anchor := some a, tag := some (← wholeTag h r) }
    | _ => return { tag := some (← wholeTag h r) }
  | _ => return {}

/-- The tag leaves the type open. -/
def isOpen (tag : Option String) : Bool := tag.isNone || tag == some "!"

/-- The tag of a scalar. -/
def scalarTag (tag : Option String) (plain : Bool) (text : String) : String :=
  match tag with
  | none => if plain then implicitTag text else coreTag "str"
  | some "!" => implicitTag text
  | some t => t

/-- The tag of a collection, which has a default. -/
def collectionTag (tag : Option String) (name : String) : String :=
  if isOpen tag then coreTag name else tag.getD ""

/-- Remembers a node under its anchor. -/
def remember (anchor : Option String) (n : Node) : Read Unit :=
  match anchor with
  | none => pure ()
  | some a => modify fun s => { s with anchors := (a, n) :: s.anchors }

/-- A collection; while it is read its anchor stands for what is around. -/
def collection (p : Properties) (isSequence : Bool) (inside : Read Node) : Read Node := do
  remember p.anchor (around isSequence)
  let n ← inside
  remember p.anchor n
  return n

mutual

/-- A node. In a block there may be block collections, and as a value of a mapping also a sequence
that is not indented. -/
def node : Nat → Bool → Bool → Read Node
  | 0, _, _ => refuse
  | n + 1, inBlock, mayHang => do
    if let .alias a ← peek then
      skip
      match (← get).anchors.lookup a with
      | some target => return target
      | none => refuse
    let p ← properties
    if let some a := p.anchor then
      if ((← get).anchors.lookup a).isSome then refuse
    let asSequence := fun (items : Read (List Node)) =>
      collection p true (return .sequence (collectionTag p.tag "seq") (← items))
    let asMapping := fun (entries : Read (List (Node × Node))) =>
      collection p false (return .mapping (collectionTag p.tag "map") (← entries))
    match ← peek with
    | .blockEntry => if mayHang then asSequence (hangingItems n) else finish p
    | .scalar text plain =>
      skip
      let s := Node.scalar (scalarTag p.tag plain text) text
      remember p.anchor s
      return s
    | .flowSequenceStart =>
      skip
      asSequence (flowItems n true)
    | .flowMappingStart =>
      skip
      asMapping (flowEntries n true)
    | .blockSequenceStart =>
      if inBlock then
        skip
        asSequence (blockItems n)
      else finish p
    | .blockMappingStart =>
      if inBlock then
        skip
        asMapping (blockEntries n)
      else finish p
    | _ => finish p
where
  /-- A scalar without characters, which needs an anchor or a tag. -/
  finish (p : Properties) : Read Node := do
    if p.anchor.isNone && p.tag.isNone then refuse
    let s := Node.scalar (scalarTag p.tag true "") ""
    remember p.anchor s
    return s

/-- A node, or an empty scalar in front of one of the given tokens. -/
def optional : Nat → Bool → Bool → List Token → Read Node
  | 0, _, _, _ => refuse
  | n + 1, inBlock, mayHang, stops => do
    if ← nextIn stops then return empty
    node n inBlock mayHang

/-- The entries of a block sequence. -/
def blockItems : Nat → Read (List Node)
  | 0 => refuse
  | n + 1 => do
    if (← peek) == .blockEntry then
      skip
      let item ← optional n true false [.blockEntry, .blockEnd]
      return item :: (← blockItems n)
    expect .blockEnd
    return []

/-- The entries of a block sequence that is not indented. -/
def hangingItems : Nat → Read (List Node)
  | 0 => refuse
  | n + 1 => do
    if (← peek) == .blockEntry then
      skip
      let item ← optional n true false [.blockEntry, .key, .value, .blockEnd]
      return item :: (← hangingItems n)
    return []

/-- The entries of a block mapping. -/
def blockEntries : Nat → Read (List (Node × Node))
  | 0 => refuse
  | n + 1 => do
    let stops := [Token.key, .value, .blockEnd]
    if (← peek) == .key then
      skip
      let k ← optional n true true stops
      let v ← if (← peek) == .value then do
          skip
          optional n true true stops
        else pure empty
      return (k, v) :: (← blockEntries n)
    expect .blockEnd
    return []

/-- The entries of a sequence in brackets. An entry with a colon is a mapping of its own. -/
def flowItems : Nat → Bool → Read (List Node)
  | 0, _ => refuse
  | n + 1, first => do
    if (← peek) == .flowSequenceEnd then
      skip
      return []
    if !first then expect .flowEntry
    match ← peek with
    | .key =>
      skip
      let k ← optional n false false [.value, .flowEntry, .flowSequenceEnd]
      let v ← if (← peek) == .value then do
          skip
          optional n false false [.flowEntry, .flowSequenceEnd]
        else pure empty
      return .mapping (coreTag "map") [(k, v)] :: (← flowItems n false)
    | .flowSequenceEnd =>
      skip
      return []
    | _ =>
      let item ← node n false false
      return item :: (← flowItems n false)

/-- The entries of a mapping in braces. -/
def flowEntries : Nat → Bool → Read (List (Node × Node))
  | 0, _ => refuse
  | n + 1, first => do
    if (← peek) == .flowMappingEnd then
      skip
      return []
    if !first then expect .flowEntry
    match ← peek with
    | .key =>
      skip
      let k ← optional n false false [.value, .flowEntry, .flowMappingEnd]
      let v ← if (← peek) == .value then do
          skip
          optional n false false [.flowEntry, .flowMappingEnd]
        else pure empty
      return (k, v) :: (← flowEntries n false)
    | .flowMappingEnd =>
      skip
      return []
    | _ =>
      let k ← node n false false
      return (k, empty) :: (← flowEntries n false)

end

/-! ### Documents -/

/-- The short forms of tags that need no directive. -/
def defaultHandles : List (String × String) := [("!", "!"), ("!!", tagStart)]

/-- Takes the directives in front of a document. -/
def directives : Nat → Bool → Read Unit
  | 0, _ => pure ()
  | n + 1, versionSeen => do
    match ← peek with
    | .directive d =>
      skip
      match d with
      | .version major _ =>
        if versionSeen || major != 1 then refuse
        directives n true
      | .shorthand h start =>
        if ((← get).handles.lookup h).isSome then refuse
        modify fun s => { s with handles := (h, start) :: s.handles }
        directives n versionSeen
      | .other => directives n versionSeen
    | _ => pure ()

/-- The next token is one that stands between documents. -/
def betweenDocuments (t : Token) : Bool :=
  match t with
  | .directive _ | .documentStart | .documentEnd | .streamEnd => true
  | _ => false

/-- The content of a document. -/
def content : Read Node := do node (4 * (← get).tokens.length + 4) true false

/-- The only document of a text, if there is one. -/
def document : Read (Option Node) := do
  let first ← peek
  if first == .streamEnd then return none
  let root ← match first with
    | .directive _ | .documentStart => do
      directives ((← get).tokens.length + 1) false
      modify fun s => { s with handles := s.handles ++ defaultHandles }
      expect .documentStart
      if betweenDocuments (← peek) then pure empty else content
    | _ => do
      modify fun s => { s with handles := defaultHandles }
      content
  modify fun s => { s with tokens := s.tokens.dropWhile (· == .documentEnd) }
  expect .streamEnd
  return some root

end Node

/-- The node of the only document of a text, if there is one. -/
def nodeOf (text : String) : Except Error (Option Node) := do
  let ts ← tokens text
  return (← Node.document.run { tokens := ts }).1

end HouseRules.Yaml
