import ClassOutline.Syntax.Walk
import Mathlib.Data.List.Basic

/-!
# The pre-order of a syntax tree

The walk with a list of nodes still to be visited goes through a tree in the order of the recursion on it. Numbered
children are walked from the first to the last.
-/
namespace ClassOutline.Syntax

private theorem Child.preorderAll_eq_flatMap (cs : List (Slot × Child)) :
    Child.preorderAll cs = cs.flatMap fun x => x.2.preorder := by
  induction cs with
  | nil => rw [Child.preorderAll, List.flatMap_nil]
  | cons x cs ih =>
    obtain ⟨s, c⟩ := x
    rw [Child.preorderAll, List.flatMap_cons, ih]

theorem Child.preorder_eq_flatMap (c : Child) : c.preorder = c.node?.toList.flatMap Node.preorder := by
  cases c <;> simp [Child.preorder, Child.node?]

theorem Node.preorder_eq_cons (n : Node) : n.preorder = n :: Child.preorderAll n.children := by
  cases n with
  | mk kind flags line children => rw [Node.preorder, Node.children]

theorem Node.flatMap_subnodes (n : Node) :
    n.subnodes.flatMap Node.preorder = Child.preorderAll n.children := by
  rw [Child.preorderAll_eq_flatMap, Node.subnodes]
  generalize n.children = cs
  induction cs with
  | nil => rfl
  | cons x cs ih =>
    rw [List.flatMap_cons, ← ih, Child.preorder_eq_flatMap]
    cases hx : x.2.node? <;> simp [hx]

/-- The walk visits what the recursion visits, for all the trees of its list one after the other. -/
theorem walk_eq_flatMap_preorder (ns : List Node) : walk ns = ns.flatMap Node.preorder := by
  fun_induction walk ns with
  | case1 => rfl
  | case2 n rest ih =>
    rw [ih, List.flatMap_append, List.flatMap_cons, Node.flatMap_subnodes, Node.preorder_eq_cons]
    rfl

theorem Node.nodes_eq_preorder (n : Node) : n.nodes = n.preorder := by
  rw [Node.nodes, walk_eq_flatMap_preorder, List.flatMap_singleton]

theorem Child.nodes_node (n : Node) : (Child.node n).nodes = n.preorder :=
  n.nodes_eq_preorder

@[simp] theorem Child.node?_node (n : Node) : (Child.node n).node? = some n := rfl

@[simp] theorem Child.node?_text (s : String) : (Child.text s).node? = none := rfl

@[simp] theorem Child.node?_absent : Child.absent.node? = none := rfl

@[simp] theorem Child.node?_ofNode? (o : Option Node) : (Child.ofNode? o).node? = o := by
  cases o <;> rfl

@[simp] theorem Child.node?_ofText? (o : Option String) : (Child.ofText? o).node? = none := by
  cases o <;> rfl

theorem Node.mem_subnodes_iff {m n : Node} : m ∈ n.subnodes ↔ ∃ x ∈ n.children, x.2.node? = some m :=
  List.mem_filterMap

theorem Node.mem_preorder_iff {m n : Node} : m ∈ n.preorder ↔ m = n ∨ ∃ c ∈ n.subnodes, m ∈ c.preorder := by
  rw [Node.preorder_eq_cons, List.mem_cons, ← Node.flatMap_subnodes, List.mem_flatMap]

private theorem size_le_totalSize {n : Node} {ns : List Node} (h : n ∈ ns) : n.size ≤ totalSize ns := by
  induction ns with
  | nil => simp at h
  | cons m ns ih =>
    rw [totalSize]
    rcases List.mem_cons.mp h with rfl | h
    · omega
    · have := ih h
      omega

/-- Induction on a tree by the nodes in its slots. -/
theorem Node.subnodes_induction {motive : Node → Prop}
    (step : ∀ n : Node, (∀ c ∈ n.subnodes, motive c) → motive n) (n : Node) : motive n := by
  apply step
  intro c hc
  exact Node.subnodes_induction step c
termination_by n.size
decreasing_by
  have hle := size_le_totalSize hc
  have hsize := totalSize_subnodes n
  omega

theorem Node.mem_preorder_trans {a b n : Node} (hab : a ∈ b.preorder) (hb : b ∈ n.preorder) :
    a ∈ n.preorder := by
  induction n using Node.subnodes_induction with
  | step n ih =>
    rcases Node.mem_preorder_iff.mp hb with rfl | ⟨c, hc, hb⟩
    · exact hab
    · exact Node.mem_preorder_iff.mpr (.inr ⟨c, hc, ih c hc hb⟩)

/-! ### Numbered children -/

/-- Nodes in the slots 0, 1, … -/
def Node.numbered (nodes : List Node) : List (Slot × Child) :=
  nodes.zipIdx.map fun x => (.index x.2, .node x.1)

private theorem Node.indexed_map_node (i : Nat) (nodes : List Node) :
    Node.indexed i (nodes.map .node) = (nodes.zipIdx i).map fun x => (.index x.2, .node x.1) := by
  induction nodes generalizing i with
  | nil => rfl
  | cons n nodes ih =>
    simp only [List.map_cons, Node.indexed, List.zipIdx_cons, ih]

/-- A list node made from nodes is the one with these nodes in numbered slots. -/
theorem Node.list_map_node (kind : Kind) (nodes : List Node) (line : Int) :
    Node.list kind (nodes.map .node) line = .mk kind 0 line (Node.numbered nodes) := by
  rw [Node.list, Node.indexed_map_node, Node.numbered]

theorem Node.subnodes_numbered (kind : Kind) (flags line : Int) (nodes : List Node) :
    (Node.mk kind flags line (Node.numbered nodes)).subnodes = nodes := by
  rw [Node.subnodes, Node.children, Node.numbered, List.filterMap_map]
  calc nodes.zipIdx.filterMap (some ∘ Prod.fst)
    _ = nodes.zipIdx.map Prod.fst := by rw [List.filterMap_eq_map]
    _ = nodes := List.zipIdx_map_fst ..

end ClassOutline.Syntax
