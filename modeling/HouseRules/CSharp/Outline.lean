import HouseRules.CSharp.Group
import HouseRules.CSharp.Keyword
import HouseRules.Source.Tree

/-! # The outline of C# source text

The outline of a source text lists its methods, local functions and namespaces in source order. It
is read off the token trees: a declaration starts where a statement or a member can start, and a
method is a type, a name and a parameter list, followed by a body, an arrow, a semicolon or a
constraint.

Expressions are not understood; only the braces in them are looked into, because a lambda
expression may hold local functions. -/

namespace HouseRules.CSharp

/-! ### Types and names -/

/-- The bytes of a part of the text. -/
structure Span where
  /-- The offset of the first byte. -/
  start : Nat
  /-- The offset after the last byte. -/
  stop : Nat
  deriving DecidableEq, Repr

/-- The bytes of the trees in front of `rest`. -/
def spanBefore (ts rest : List TokenTree) : Span :=
  let taken := ts.take (ts.length - rest.length)
  ⟨(taken.head?.map TokenTree.start).getD 0, (taken.getLast?.map TokenTree.stop).getD 0⟩

/-- What may stand between angle brackets. -/
def inAngles (t : TokenTree) : Bool :=
  t.word?.isSome || t.isGroup .round || t.isGroup .square ||
    [",", ".", "?", "*", "::"].any t.isMark

/-- The last word of a dotted name, and what follows the name. Each word may have arguments in angle
brackets; `depth` counts those that are open. -/
def nameRest (depth : Nat) (last : TokenTree) :
    List TokenTree → Option (TokenTree × List TokenTree)
  | [] => if depth = 0 then some (last, []) else none
  | t :: r =>
    if t.isMark "<" then nameRest (depth + 1) last r
    else if depth = 0 then
      match r with
      | w :: r' =>
        if (t.isMark "." || t.isMark "::") && w.word?.isSome then nameRest 0 w r'
        else some (last, t :: w :: r')
      | [] => some (last, [t])
    else if t.isMark ">" then nameRest (depth - 1) last r
    else if inAngles t then nameRest depth last r
    else none

/-- What follows the marks behind a type: question marks, stars and ranks of arrays. -/
def typeSuffixRest : List TokenTree → List TokenTree
  | [] => []
  | t :: r =>
    match t with
    | .group .square _ _ body =>
      if body.all (TokenTree.isMark ",") then typeSuffixRest r else t :: r
    | _ => if t.isMark "?" || t.isMark "*" then typeSuffixRest r else t :: r

/-- The trees without a first one that satisfies `p`. -/
def dropIf (p : TokenTree → Bool) : List TokenTree → List TokenTree
  | [] => []
  | t :: r => if p t then r else t :: r

/-- What follows the type of a function pointer, behind its first keyword. -/
def pointerRest : List TokenTree → Option (List TokenTree)
  | [] => none
  | t :: r =>
    if t.isMark "*" then
      let r := dropIf (TokenTree.isGroup .square) (dropIf (·.word?.isSome) r)
      if (r.head?.map (TokenTree.isMark "<")).getD false then (nameRest 0 t r).map Prod.snd else none
    else none

/-- What follows a type without its marks. -/
def typeCoreRest : List TokenTree → Option (List TokenTree)
  | [] => none
  | t :: r =>
    match t with
    | .group .round _ _ body => if body.any (TokenTree.isMark ",") then some r else none
    | _ =>
      match t.word? with
      | some "delegate" => pointerRest r
      | some w =>
        if typeKeywords.contains w then some r
        else if startsTypeName w then (nameRest 0 t r).map Prod.snd
        else none
      | none => none

/-- The tree is the given word. -/
def isWord (w : String) (t : TokenTree) : Bool := t.word? == some w

/-- What follows a type. -/
def typeRest (ts : List TokenTree) : Option (List TokenTree) :=
  let core := if (ts.head?.map (isWord "ref")).getD false then dropIf (isWord "readonly") (ts.drop 1)
    else ts
  (typeCoreRest core).map typeSuffixRest

/-! ### Declarations -/

/-- What a pair of braces holds. -/
inductive Body where
  /-- Members of a type or a namespace. -/
  | members
  /-- Statements, or the whole text. -/
  | statements
  deriving DecidableEq, Repr

/-- A declaration. -/
inductive Declaration where
  /-- A method, or a function among statements: its result type and its name. -/
  | method (inside : Body) (type name : Span)
  /-- A namespace, with a body or for the rest of the text: its name. -/
  | namespaced (restOfText : Bool) (name : Span)
  deriving DecidableEq, Repr

/-- What may follow a parameter list. -/
def endsHeader (t : TokenTree) : Bool :=
  t.isGroup .curly || t.isMark "=>" || t.isMark ";" || isWord "where" t

/-- The method whose type starts here. -/
def method? (inside : Body) (ts : List TokenTree) : Option Declaration := do
  let afterType ← typeRest ts
  let first :: r := afterType | none
  if !((first.word?.map isName).getD false) then none
  let (last, afterName) ← nameRest 0 first r
  let parameters :: next :: _ := afterName | none
  if parameters.isGroup .round && endsHeader next then
    some (.method inside (spanBefore ts afterType) ⟨last.start, last.stop⟩)
  else none

/-- The namespace whose keyword stands in front. -/
def namespace? (ts : List TokenTree) : Option Declaration :=
  let rest := ts.dropWhile fun t => t.word?.isSome || t.isMark "." || t.isMark "::"
  if rest.length < ts.length then
    some (.namespaced ((rest.head?.map (TokenTree.isMark ";")).getD false) (spanBefore ts rest))
  else none

/-- Where a scan stands. -/
inductive Place where
  /-- Where a statement or a member can start. -/
  | start
  /-- In front of the colon of a label. -/
  | label
  /-- Further on in a statement or a member. -/
  | inside (typeHeader : Bool)
  /-- In brackets that hold an expression. -/
  | expression
  deriving DecidableEq, Repr

/-- What starts with a tree where a statement or a member can start, and where the scan stands behind
that tree. -/
def visitStart (body : Body) (t : TokenTree) (r : List TokenTree) : List Declaration × Place :=
  match t with
  | .group .square .. | .group .curly .. => ([], .start)
  | _ =>
    if t.isMark ";" then ([], .start)
    else
      let followedByWord := (r.head?.map (·.word?.isSome)).getD false
      let labelled := (r.head?.map (TokenTree.isMark ":")).getD false
      match t.word? with
      | some "namespace" => ((namespace? r).toList, .inside true)
      | some w =>
        if w = "case" || labelled then ([], .label)
        else if typeDeclarators.contains w || (w = "record" && followedByWord) then
          ([], .inside true)
        else
          match method? body (t :: r) with
          | some m => ([m], .inside false)
          | none => ([], if modifiers.contains w || w = "ref" then .start else .inside false)
      | none => ((method? body (t :: r)).toList, .inside false)

/-- What starts with a tree, and where the scan stands behind it. -/
def visit (body : Body) (place : Place) (t : TokenTree) (r : List TokenTree) :
    List Declaration × Place :=
  match place with
  | .start => visitStart body t r
  | .label => ([], if t.isMark ":" || t.isMark ";" then .start else .label)
  | .inside _ => ([], if t.isMark ";" || t.isGroup .curly then .start else place)
  | .expression => ([], .expression)

/-- What the braces at a place hold. -/
def bodyAt : Place → Body
  | .inside true => .members
  | _ => .statements

mutual

/-- The declarations in a group. Braces right behind `switch` hold the arms of an expression. -/
def innerDeclarations (place : Place) (afterSwitch : Bool) : TokenTree → List Declaration
  | .leaf _ => []
  | .group b _ _ body =>
    declarations (bodyAt place) (if b = .curly && !afterSwitch then .start else .expression) false body

/-- The declarations in a list of trees. -/
def declarations (body : Body) (place : Place) (afterSwitch : Bool) :
    List TokenTree → List Declaration
  | [] => []
  | t :: r =>
    let (found, next) := visit body place t r
    found ++ innerDeclarations place afterSwitch t ++
      declarations body next (isWord "switch" t) r

end

/-! ### The outline as a syntax tree -/

/-- The node of a part. -/
def Span.node (s : Span) (kind field : String) : SyntaxNode :=
  .node kind s.start s.stop (some field) []

/-- The node of a declaration. -/
def Declaration.node : Declaration → SyntaxNode
  | .method .members type name =>
    .node "method_declaration" type.start name.stop none
      [type.node "type" "returns", name.node "identifier" "name"]
  | .method .statements type name =>
    .node "local_function_statement" type.start name.stop none
      [type.node "type" "type", name.node "identifier" "name"]
  | .namespaced restOfText name =>
    .node (if restOfText then "file_scoped_namespace_declaration" else "namespace_declaration")
      name.start name.stop none [name.node "qualified_name" "name"]

/-- The outline of a source text. -/
def outline (source : String) : SyntaxNode :=
  let found := declarations .statements .start false (TokenTree.ofTokens (tokens source))
  .node "compilation_unit" 0 source.utf8ByteSize none (found.map Declaration.node)

end HouseRules.CSharp
