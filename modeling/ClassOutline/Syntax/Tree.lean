import ClassOutline.Syntax.Kind

/-!
Syntax trees: a node has a kind, a mask of flags, the line it starts on, and children in named or
numbered slots. A child is a node, a literal, nothing, or a value that has no meaning in a tree.
-/
namespace ClassOutline.Syntax

/-- The place of a child in its node. -/
inductive Slot where
  | named (name : String)
  | index (i : Int)
  deriving DecidableEq, Repr

mutual

/-- A node of a syntax tree. -/
inductive Node where
  | mk (kind : Kind) (flags : Int) (line : Int) (children : List (Slot × Child))

/-- What a slot holds. -/
inductive Child where
  | node (n : Node)
  | text (s : String)
  | number (n : Int)
  | absent
  /-- A value that has no meaning in a tree, as it is written. -/
  | foreign (written : String)

end

instance : Inhabited Node := ⟨.mk .other 0 0 []⟩

instance : Inhabited Child := ⟨.absent⟩

namespace Node

def kind : Node → Kind
  | mk k _ _ _ => k

def flags : Node → Int
  | mk _ f _ _ => f

def line : Node → Int
  | mk _ _ l _ => l

def children : Node → List (Slot × Child)
  | mk _ _ _ cs => cs

def child? (n : Node) (slot : Slot) : Option Child :=
  n.children.lookup slot

def text? (n : Node) (name : String) : Option String :=
  match n.child? (.named name) with
  | some (.text s) => some s
  | _ => none

def node? (n : Node) (name : String) : Option Node :=
  match n.child? (.named name) with
  | some (.node m) => some m
  | _ => none

end Node

def Child.node? : Child → Option Node
  | .node n => some n
  | _ => none

def Child.ofNode? : Option Node → Child
  | some n => .node n
  | none => .absent

def Child.ofText? : Option String → Child
  | some s => .text s
  | none => .absent

namespace Node

/-- The children that are nodes, in slot order. -/
def subnodes (n : Node) : List Node :=
  n.children.filterMap fun c => c.2.node?

/-- Children in the slots `i`, `i + 1`, … -/
def indexed (i : Nat) : List Child → List (Slot × Child)
  | [] => []
  | c :: cs => (.index i, c) :: indexed (i + 1) cs

/-- A node whose children stand in the slots 0, 1, … -/
def list (kind : Kind) (items : List Child) (line : Int) : Node :=
  .mk kind 0 line (indexed 0 items)

end Node

end ClassOutline.Syntax
