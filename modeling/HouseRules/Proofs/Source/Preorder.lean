import HouseRules.Source.Tree

/-! # Walks are pre-orders

The walk with a stack visits the nodes in the order of the recursion: what a stack still has to
yield are the nodes of its trees, one tree after the other (`walk_eq_preorderAll`). -/

namespace HouseRules

namespace SyntaxNode

theorem preorderAll_append (xs ys : List SyntaxNode) :
    preorderAll (xs ++ ys) = preorderAll xs ++ preorderAll ys := by
  induction xs with
  | nil => rfl
  | cons x xs ih => rw [List.cons_append, preorderAll, preorderAll, ih, List.append_assoc]

theorem preorder_eq (t : SyntaxNode) : t.preorder = t :: preorderAll t.children := by
  cases t
  rw [preorder, children]

/-- **What a stack still has to yield**: the trees from the top on, each in pre-order. -/
theorem walk_eq_preorderAll (stack : List SyntaxNode) : walk stack = preorderAll stack := by
  fun_induction walk stack with
  | case1 => rfl
  | case2 t stack ih =>
    rw [ih, preorderAll_append, preorderAll, preorder_eq, List.cons_append]

end SyntaxNode

namespace SyntaxTree

open SyntaxNode

theorem nodes_eq_preorder (t : SyntaxTree) : t.nodes = t.root.preorder := by
  rw [nodes, walk_eq_preorderAll, preorderAll, preorderAll, List.append_nil]

theorem nodesOfKind_eq (t : SyntaxTree) (kinds : List String) :
    t.nodesOfKind kinds = t.root.preorder.filter (·.kind ∈ kinds) := by
  rw [nodesOfKind, nodes_eq_preorder]
  refine List.filter_congr fun n _ => ?_
  rw [Bool.eq_iff_iff, List.contains_iff_mem, decide_eq_true_eq]

end SyntaxTree

end HouseRules
