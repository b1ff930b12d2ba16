import ClassOutline.Syntax.Tree

/-!
Walks through a syntax tree: all nodes in pre-order, and the first class in that order.

`preorder` is the order itself, by recursion on the tree. `walk` goes through the same nodes with a list of
nodes still to be visited, so that its depth does not grow with the depth of the tree.
-/
namespace ClassOutline.Syntax

mutual

/-- The node, then the nodes below it from the first slot to the last. -/
def Node.preorder : Node → List Node
  | .mk k f l cs => .mk k f l cs :: Child.preorderAll cs

def Child.preorderAll : List (Slot × Child) → List Node
  | [] => []
  | (_, c) :: rest => c.preorder ++ Child.preorderAll rest

def Child.preorder : Child → List Node
  | .node n => n.preorder
  | .text _ => []
  | .number _ => []
  | .absent => []
  | .foreign _ => []

end

mutual

def Node.size : Node → Nat
  | .mk _ _ _ cs => Child.sizeAll cs + 1

def Child.sizeAll : List (Slot × Child) → Nat
  | [] => 0
  | (_, c) :: rest => c.size + Child.sizeAll rest

def Child.size : Child → Nat
  | .node n => n.size
  | .text _ => 0
  | .number _ => 0
  | .absent => 0
  | .foreign _ => 0

end

def totalSize : List Node → Nat
  | [] => 0
  | n :: ns => n.size + totalSize ns

private theorem totalSize_filterMap (cs : List (Slot × Child)) :
    totalSize (cs.filterMap fun c => c.2.node?) = Child.sizeAll cs := by
  induction cs with
  | nil => rfl
  | cons c cs ih =>
    obtain ⟨s, c⟩ := c
    cases c <;> simp_all [totalSize, Child.node?, Child.sizeAll, Child.size]

theorem totalSize_subnodes (n : Node) : totalSize n.subnodes + 1 = n.size := by
  cases n with
  | mk k f l cs => simp [Node.subnodes, Node.children, totalSize_filterMap, Node.size]

theorem totalSize_append (as bs : List Node) : totalSize (as ++ bs) = totalSize as + totalSize bs := by
  induction as with
  | nil => simp [totalSize]
  | cons n as ih => simp [totalSize, ih, Nat.add_assoc]

/-- Visit the first node of the list, and put its child nodes in front of the others. -/
def walk : List Node → List Node
  | [] => []
  | n :: rest => n :: walk (n.subnodes ++ rest)
termination_by ns => totalSize ns
decreasing_by
  have h := totalSize_subnodes n
  rw [totalSize_append]
  simp only [totalSize] at h ⊢
  omega

/-- All nodes of a tree, in the order of `preorder`. -/
def Node.nodes (n : Node) : List Node :=
  walk [n]

/-- All nodes at and below a child; a child that is not a node has none. -/
def Child.nodes (c : Child) : List Node :=
  walk c.node?.toList

/-- The first class at or below a child, in pre-order. -/
def Child.firstClass? (c : Child) : Option Node :=
  c.nodes.find? fun m => m.kind = .classDecl

end ClassOutline.Syntax
