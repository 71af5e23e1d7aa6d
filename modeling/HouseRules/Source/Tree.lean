import HouseRules.History.Failure
import HouseRules.Text.Utf8

/-! # Syntax trees

A syntax tree is a node with children over a source text; each node covers a byte range of it.
`walk` visits the nodes with a stack, `preorder` lists them by recursion: a node before its
children, these from left to right. -/

namespace HouseRules

/-- A node of a syntax tree. -/
inductive SyntaxNode where
  /-- A node: its kind, the bytes it covers, the part it plays in its parent, its children. -/
  | node (kind : String) (start stop : Int) (field : Option String) (children : List SyntaxNode)

namespace SyntaxNode

/-- What the node is. -/
def kind : SyntaxNode → String
  | node k .. => k

/-- Where the node starts. -/
def start : SyntaxNode → Int
  | node _ s .. => s

/-- Where the node ends. -/
def stop : SyntaxNode → Int
  | node _ _ s .. => s

/-- The part that the node plays in its parent. -/
def field : SyntaxNode → Option String
  | node _ _ _ f _ => f

/-- The children, from left to right. -/
def children : SyntaxNode → List SyntaxNode
  | node _ _ _ _ cs => cs

/-! ### Order of nodes -/

mutual

/-- The nodes of a tree, by recursion. -/
def preorder : SyntaxNode → List SyntaxNode
  | node k s e f cs => node k s e f cs :: preorderAll cs

/-- The nodes of several trees, by recursion. -/
def preorderAll : List SyntaxNode → List SyntaxNode
  | [] => []
  | t :: ts => preorder t ++ preorderAll ts

end

mutual

/-- The number of nodes of a tree. -/
def size : SyntaxNode → Nat
  | node _ _ _ _ cs => 1 + sizeAll cs

/-- The number of nodes of several trees. -/
def sizeAll : List SyntaxNode → Nat
  | [] => 0
  | t :: ts => size t + sizeAll ts

end

theorem sizeAll_append (xs ys : List SyntaxNode) :
    sizeAll (xs ++ ys) = sizeAll xs + sizeAll ys := by
  induction xs with
  | nil => simp [sizeAll]
  | cons x xs ih => simp [sizeAll, ih, Nat.add_assoc]

theorem size_eq (t : SyntaxNode) : t.size = 1 + sizeAll t.children := by
  cases t
  simp [size, children]

/-- The nodes that a stack of trees still has to yield. -/
def walk : List SyntaxNode → List SyntaxNode
  | [] => []
  | t :: stack => t :: walk (t.children ++ stack)
termination_by stack => sizeAll stack
decreasing_by
  rw [sizeAll_append, sizeAll, size_eq]
  omega

end SyntaxNode

/-- A syntax tree over its encoded source. -/
structure SyntaxTree where
  /-- The top node. -/
  root : SyntaxNode
  /-- The encoded source. -/
  source : Bytes

namespace SyntaxTree

/-- The nodes, a parent before its children. -/
def nodes (t : SyntaxTree) : List SyntaxNode := SyntaxNode.walk [t.root]

/-- The nodes of the given kinds. -/
def nodesOfKind (t : SyntaxTree) (kinds : List String) : List SyntaxNode :=
  t.nodes.filter (kinds.contains ·.kind)

/-- The source text of a node. -/
def textOf (t : SyntaxTree) (n : SyntaxNode) : String :=
  Utf8.decodeLossy (t.source.slice n.start n.stop)

end SyntaxTree

/-- The names under which a part is looked up: the type of a method is also its result. -/
def fieldNames (field : String) : List String :=
  if field = "type" then ["type", "returns"] else [field]

/-- The first child that plays a part, under the first of its names that occurs. -/
def SyntaxNode.child? (n : SyntaxNode) (field : String) : Option SyntaxNode :=
  (fieldNames field).findSome? fun name => n.children.find? (·.field == some name)

/-- The child that plays a part, which must be there. -/
def SyntaxNode.requiredChild (n : SyntaxNode) (field : String) : Except Violation SyntaxNode :=
  match n.child? field with
  | some c => .ok c
  | none => .error (.missingField n.kind n.start n.stop field)

end HouseRules
