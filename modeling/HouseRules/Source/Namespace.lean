import HouseRules.Source.Tree
import HouseRules.Text.Blank

/-! # Declared namespaces

The namespaces that a syntax tree declares, in source order. A declaration that was not understood
appears as an error node that starts with the keyword; its name is read off the text. -/

namespace HouseRules

/-- The kinds of nodes that declare a namespace. -/
def namespaceKinds : List String := ["namespace_declaration", "file_scoped_namespace_declaration"]

/-- The namespace in the text of a node that was not understood. -/
def namespaceInText? (text : String) : Option String :=
  let source := (Text.strip text).toList
  if "namespace".toList.isPrefixOf source then
    let name := (Search.after? "namespace ".toList source).getD source
    some (String.ofList (Search.dropEndWhile (· == ';') name))
  else none

namespace SyntaxTree

/-- The namespace that a node declares, if it declares one. -/
def namespaceOf? (t : SyntaxTree) (n : SyntaxNode) : Except Violation (Option String) :=
  if namespaceKinds.contains n.kind then do
    let name ← n.requiredChild "name"
    return some (t.textOf name)
  else if n.kind = "ERROR" then .ok (namespaceInText? (t.textOf n))
  else .ok none

/-- All namespaces that are declared. -/
def namespaces (t : SyntaxTree) : Except Violation (List String) := do
  return (← t.nodes.mapM t.namespaceOf?).filterMap id

/-- One of the nodes declares a namespace with the property. Nodes behind the first such one are
not looked at. -/
def anyNamespaceIn (t : SyntaxTree) (test : String → Bool) : List SyntaxNode → Except Violation Bool
  | [] => .ok false
  | n :: ns => do
    match ← t.namespaceOf? n with
    | some name => if test name then return true else anyNamespaceIn t test ns
    | none => anyNamespaceIn t test ns

/-- Some declared namespace has the property. -/
def anyNamespace (t : SyntaxTree) (test : String → Bool) : Except Violation Bool :=
  t.anyNamespaceIn test t.nodes

end SyntaxTree
end HouseRules
