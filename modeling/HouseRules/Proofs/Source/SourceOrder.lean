import HouseRules.Proofs.Source.Preorder
import Mathlib.Data.List.Chain
import Mathlib.Data.List.Lex

/-! # Source order

Two nodes of a tree may be equal, so a node is known by its address: the numbers of the children on
the way to it (`nodeAt?`). Addresses are compared by the lexicographic order on `List Nat`, in which
a parent stands before what is below it, and a child with what is below it before the children to
its right. The nodes of a tree are those of its addresses in ascending order, each once
(`pairwise_addresses`, `mem_addresses`, `map_nodeAt?_addresses`).

Where the ranges of children lie inside those of their parents, one behind the other (`Nested`), the
nodes are also in the order in which they start in the source (`Nested.pairwise_start`). -/

namespace HouseRules

namespace SyntaxNode

/-! ### Addresses -/

/-- The node at an address: each number tells with which child the way goes on. -/
def nodeAt? (t : SyntaxNode) : List Nat → Option SyntaxNode
  | [] => some t
  | i :: a => t.children[i]?.bind (·.nodeAt? a)

mutual

/-- The addresses of a tree, by recursion. -/
def addresses : SyntaxNode → List (List Nat)
  | node _ _ _ _ cs => [] :: addressesFrom 0 cs

/-- The addresses of the trees that are the children from number `i` on. -/
def addressesFrom : Nat → List SyntaxNode → List (List Nat)
  | _, [] => []
  | i, t :: ts => (addresses t).map (i :: ·) ++ addressesFrom (i + 1) ts

end

theorem addresses_eq (t : SyntaxNode) : t.addresses = [] :: addressesFrom 0 t.children := by
  cases t
  rw [addresses, children]

theorem mem_addressesFrom {cs : List SyntaxNode} {i : Nat} {a : List Nat} :
    a ∈ addressesFrom i cs ↔ ∃ j b c, a = (i + j) :: b ∧ cs[j]? = some c ∧ b ∈ c.addresses := by
  induction cs generalizing i with
  | nil => simp [addressesFrom]
  | cons c cs ih =>
    rw [addressesFrom, List.mem_append, List.mem_map, ih]
    constructor
    · rintro (⟨b, hb, rfl⟩ | ⟨j, b, d, rfl, hd, hb⟩)
      · exact ⟨0, b, c, rfl, rfl, hb⟩
      · exact ⟨j + 1, b, d, by rw [Nat.add_assoc, Nat.add_comm 1 j], hd, hb⟩
    · rintro ⟨_ | j, b, d, rfl, hd, hb⟩
      · cases hd
        exact Or.inl ⟨b, hb, rfl⟩
      · exact Or.inr ⟨j, b, d, by rw [Nat.add_assoc, Nat.add_comm 1 j], hd, hb⟩

/-- **The addresses are those at which there is a node.** -/
theorem mem_addresses {t : SyntaxNode} {a : List Nat} :
    a ∈ t.addresses ↔ (t.nodeAt? a).isSome := by
  induction a generalizing t with
  | nil => simp [addresses_eq, nodeAt?]
  | cons i a ih =>
    rw [addresses_eq, List.mem_cons, mem_addressesFrom, nodeAt?]
    constructor
    · rintro (h | ⟨j, b, c, h, hc, hb⟩)
      · cases h
      · rw [Nat.zero_add, List.cons.injEq] at h
        obtain ⟨rfl, rfl⟩ := h
        rw [hc, Option.bind_some]
        exact ih.mp hb
    · intro h
      cases hc : t.children[i]? with
      | none => rw [hc] at h; cases h
      | some c =>
        rw [hc, Option.bind_some] at h
        exact Or.inr ⟨i, a, c, by rw [Nat.zero_add], hc, ih.mpr h⟩

mutual

/-- **The addresses ascend**: a parent before what is below it, siblings from left to right. -/
theorem pairwise_addresses : ∀ t : SyntaxNode, t.addresses.Pairwise (· < ·)
  | node _ _ _ _ cs => by
    rw [addresses, List.pairwise_cons]
    refine ⟨fun a ha => ?_, pairwise_addressesFrom 0 cs⟩
    obtain ⟨j, b, c, rfl, -⟩ := mem_addressesFrom.mp ha
    exact List.nil_lt_cons _ _

theorem pairwise_addressesFrom : ∀ (i : Nat) (cs : List SyntaxNode),
    (addressesFrom i cs).Pairwise (· < ·)
  | _, [] => List.Pairwise.nil
  | i, c :: cs => by
    rw [addressesFrom, List.pairwise_append]
    refine ⟨?_, pairwise_addressesFrom (i + 1) cs, fun a ha b hb => ?_⟩
    · rw [List.pairwise_map]
      exact (pairwise_addresses c).imp fun h => List.cons_lt_cons_iff.mpr (Or.inr ⟨rfl, h⟩)
    · obtain ⟨a, -, rfl⟩ := List.mem_map.mp ha
      obtain ⟨j, b, d, rfl, -⟩ := mem_addressesFrom.mp hb
      exact List.cons_lt_cons_iff.mpr (Or.inl (by omega))

end

mutual

/-- **The nodes at the addresses** are the nodes in pre-order. -/
theorem map_nodeAt?_addresses : ∀ t : SyntaxNode, t.addresses.map t.nodeAt? = t.preorder.map some
  | node k s e f cs => by
    rw [addresses, preorder, List.map_cons, List.map_cons, nodeAt?,
      map_nodeAt?_addressesFrom (node k s e f cs) 0 cs rfl]

theorem map_nodeAt?_addressesFrom (t : SyntaxNode) : ∀ (i : Nat) (cs : List SyntaxNode),
    t.children.drop i = cs → (addressesFrom i cs).map t.nodeAt? = (preorderAll cs).map some
  | _, [], _ => rfl
  | i, c :: cs, h => by
    have hc : t.children[i]? = some c := by
      rw [← List.head?_drop, h, List.head?_cons]
    have hcs : t.children.drop (i + 1) = cs := by
      rw [← List.tail_drop, h, List.tail_cons]
    have hchild : t.nodeAt? ∘ (i :: ·) = c.nodeAt? := by
      funext a
      rw [Function.comp_apply, nodeAt?, hc, Option.bind_some]
    rw [addressesFrom, preorderAll, List.map_append, List.map_append, List.map_map, hchild,
      map_nodeAt?_addresses c, map_nodeAt?_addressesFrom t (i + 1) cs hcs]

end

/-- The walk takes one step for each node of its stack. -/
theorem length_walk (stack : List SyntaxNode) : (walk stack).length = sizeAll stack := by
  fun_induction walk stack with
  | case1 => rfl
  | case2 t stack ih =>
    rw [List.length_cons, ih, sizeAll_append, sizeAll, size_eq]
    omega

/-! ### Ranges inside ranges -/

/-- The range of each child lies inside that of its parent, and starts where that of the child
before it ends or later. -/
inductive Nested : SyntaxNode → Prop where
  /-- A node whose children are so. -/
  | node {kind : String} {start stop : Int} {field : Option String} {children : List SyntaxNode}
      (inside : ∀ c ∈ children, start ≤ c.start ∧ c.start ≤ c.stop ∧ c.stop ≤ stop)
      (ordered : children.IsChain fun a b => a.stop ≤ b.start)
      (deeper : ∀ c ∈ children, Nested c) : Nested (.node kind start stop field children)

theorem preorderAll_eq_flatMap (ts : List SyntaxNode) : preorderAll ts = ts.flatMap preorder := by
  induction ts with
  | nil => rfl
  | cons t ts ih => rw [preorderAll, List.flatMap_cons, ih]

/-- Not only the next sibling, all further ones start behind the end of a child. -/
theorem pairwise_of_isChain {cs : List SyntaxNode} (hle : ∀ c ∈ cs, c.start ≤ c.stop)
    (h : cs.IsChain fun a b => a.stop ≤ b.start) : cs.Pairwise fun a b => a.stop ≤ b.start := by
  induction cs with
  | nil => exact List.Pairwise.nil
  | cons c cs ih =>
    have hcs := ih (fun d hd => hle d (List.mem_cons_of_mem c hd)) h.tail
    refine List.pairwise_cons.mpr ⟨fun d hd => ?_, hcs⟩
    cases cs with
    | nil => cases hd
    | cons b bs =>
      have hb : c.stop ≤ b.start := (List.isChain_cons_cons.mp h).1
      rcases List.mem_cons.mp hd with rfl | hd
      · exact hb
      · have hbb := hle b (List.mem_cons_of_mem c List.mem_cons_self)
        have hbd := (List.pairwise_cons.mp hcs).1 d hd
        omega

namespace Nested

variable {t : SyntaxNode}

/-- No node starts before the top. -/
theorem start_le (h : t.Nested) : ∀ n ∈ t.preorder, t.start ≤ n.start := by
  induction h with
  | node inside ordered deeper ih =>
    intro n hn
    rw [preorder, List.mem_cons, preorderAll_eq_flatMap, List.mem_flatMap] at hn
    rcases hn with rfl | ⟨c, hc, hn⟩
    · exact Int.le_refl _
    · exact Int.le_trans (inside c hc).1 (ih c hc n hn)

/-- No node starts behind the end of the top. -/
theorem start_le_stop (h : t.Nested) : t.start ≤ t.stop → ∀ n ∈ t.preorder, n.start ≤ t.stop := by
  induction h with
  | node inside ordered deeper ih =>
    intro hle n hn
    rw [preorder, List.mem_cons, preorderAll_eq_flatMap, List.mem_flatMap] at hn
    rcases hn with rfl | ⟨c, hc, hn⟩
    · exact hle
    · obtain ⟨-, hc', hstop⟩ := inside c hc
      exact Int.le_trans (ih c hc hc' n hn) hstop

/-- **Pre-order is source order.** What is below a child starts before the child ends, and so
before the next child and what is below it. -/
theorem pairwise_start (h : t.Nested) : t.preorder.Pairwise fun a b => a.start ≤ b.start := by
  induction h with
  | @node kind start stop field children inside ordered deeper ih =>
    have hle : ∀ c ∈ children, c.start ≤ c.stop := fun c hc => (inside c hc).2.1
    rw [preorder, List.pairwise_cons]
    refine ⟨fun n hn => ?_, ?_⟩
    · have htop : (SyntaxNode.node kind start stop field children).Nested :=
        .node inside ordered deeper
      refine htop.start_le n ?_
      rw [preorder]
      exact List.mem_cons_of_mem _ hn
    · rw [preorderAll_eq_flatMap, List.pairwise_flatMap]
      refine ⟨ih, (pairwise_of_isChain hle ordered).imp_of_mem fun {a b} ha hb hab m hm n hn => ?_⟩
      have hm' := (deeper a ha).start_le_stop (hle a ha) m hm
      have hn' := (deeper b hb).start_le n hn
      omega

end Nested

end SyntaxNode

namespace SyntaxTree

open SyntaxNode

/-- **The nodes come in source order.** The walk with a stack yields the nodes in pre-order, in as
many steps as there are nodes: those at the addresses of the tree, each address once, in
lexicographic order. The nodes of some kinds are picked from this list. Where the ranges are nested,
no node starts before one that has been yielded. -/
theorem nodes_sourceOrder (t : SyntaxTree) :
    t.nodes = t.root.preorder ∧ t.nodes.length = t.root.size ∧
    (∃ addresses : List (List Nat), addresses.Pairwise (· < ·) ∧
      (∀ a, a ∈ addresses ↔ (t.root.nodeAt? a).isSome) ∧
      addresses.map t.root.nodeAt? = t.nodes.map some) ∧
    (∀ kinds : List String, t.nodesOfKind kinds = t.root.preorder.filter (·.kind ∈ kinds)) ∧
    (t.root.Nested → (t.nodes.map start).Pairwise (· ≤ ·)) := by
  refine ⟨t.nodes_eq_preorder, ?_, ⟨t.root.addresses, ?_, fun a => mem_addresses, ?_⟩,
    t.nodesOfKind_eq, fun h => ?_⟩
  · rw [nodes, length_walk, sizeAll, sizeAll, Nat.add_zero]
  · exact pairwise_addresses t.root
  · rw [nodes_eq_preorder]
    exact map_nodeAt?_addresses t.root
  · rw [nodes_eq_preorder, List.pairwise_map]
    exact h.pairwise_start

/-- A tree with an empty range between two siblings, as a missing token has it. -/
def gappedTree : SyntaxTree where
  root := .node "unit" 0 9 none [
    .node "left" 0 4 none [.node "name" 1 3 (some "name") []],
    .node "missing" 4 4 none [],
    .node "right" 4 8 none []]
  source := Bytes.ofAscii "(ab) (c) "

/-- The empty range and its right neighbour start at the same place. -/
theorem nodes_sourceOrder_gapped :
    gappedTree.root.Nested ∧ (gappedTree.nodes.map start).Pairwise (· ≤ ·) := by
  have hleaf : ∀ kind start stop field, (SyntaxNode.node kind start stop field []).Nested :=
    fun _ _ _ _ => .node (by simp) .nil (by simp)
  have hnested : gappedTree.root.Nested := by
    refine .node (by decide) (by decide) ?_
    simp only [List.forall_mem_cons, List.not_mem_nil, false_imp_iff, implies_true, and_true]
    refine ⟨.node (by decide) (by decide) ?_, hleaf _ _ _ _, hleaf _ _ _ _⟩
    simp only [List.forall_mem_singleton]
    exact hleaf _ _ _ _
  exact ⟨hnested, (nodes_sourceOrder gappedTree).2.2.2.2 hnested⟩

end SyntaxTree

end HouseRules
