import ClassOutline.Text.Utf8

/-!
Concrete syntax trees: every construct and token of a source, with its type, the field it has in its
parent, the row it starts on and the bytes it covers.

A tree can be given by its rows in pre-order, each with the number of its children.
-/
namespace ClassOutline

structure CstHead where
  type : String
  field : Option String
  row : Nat
  bytes : ByteArray
  /-- Named nodes are constructs, the others are tokens. -/
  named : Bool
  /-- A token that the source lacks. -/
  missing : Bool
  /-- The node is said to have an error at or below it. -/
  hasError : Bool

/-- A concrete syntax tree. -/
inductive Cst where
  | node (head : CstHead) (children : List Cst)

namespace Cst

def head : Cst → CstHead
  | node h _ => h

def children : Cst → List Cst
  | node _ cs => cs

def type (n : Cst) : String :=
  n.head.type

def line (n : Cst) : Nat :=
  n.head.row + 1

def chars (n : Cst) : List Char :=
  Text.decodeUtf8 n.head.bytes

def text (n : Cst) : String :=
  String.ofList n.chars

def named (n : Cst) : List Cst :=
  n.children.filter (·.head.named)

/-- The first child with a field. -/
def field? (n : Cst) (name : String) : Option Cst :=
  n.children.find? fun c => c.head.field == some name

def namedOf? (n : Cst) (types : List String) : Option Cst :=
  n.named.find? fun c => types.contains c.type

mutual

def size : Cst → Nat
  | node _ cs => sizeAll cs + 1

def sizeAll : List Cst → Nat
  | [] => 0
  | c :: cs => c.size + sizeAll cs

end

theorem sizeAll_append (as bs : List Cst) : sizeAll (as ++ bs) = sizeAll as + sizeAll bs := by
  induction as with
  | nil => simp [sizeAll]
  | cons a as ih => simp [sizeAll, ih]; omega

private theorem sizeAll_filter_le (p : Cst → Bool) (cs : List Cst) : sizeAll (cs.filter p) ≤ sizeAll cs := by
  induction cs with
  | nil => simp [sizeAll]
  | cons c cs ih =>
    rw [List.filter_cons]
    split <;> simp only [sizeAll] <;> omega

theorem size_eq (n : Cst) : n.size = sizeAll n.children + 1 := by
  cases n with
  | node h cs => simp [size, children]

theorem sizeAll_named_lt (n : Cst) : sizeAll n.named < n.size := by
  rw [size_eq]
  exact Nat.lt_succ_of_le (sizeAll_filter_le _ _)

theorem size_le_of_mem {c : Cst} {cs : List Cst} (h : c ∈ cs) : c.size ≤ sizeAll cs := by
  induction cs with
  | nil => simp at h
  | cons d cs ih =>
    rcases List.mem_cons.1 h with rfl | h
    · simp [sizeAll]
    · have := ih h
      simp only [sizeAll]
      omega

/-- Induction on a tree by the children of its nodes. -/
theorem children_induction {motive : Cst → Prop} (step : ∀ n : Cst, (∀ c ∈ n.children, motive c) → motive n)
    (n : Cst) : motive n := by
  apply step
  intro c hc
  exact children_induction step c
termination_by n.size
decreasing_by
  have hle := size_le_of_mem hc
  have hsize := size_eq n
  omega

/-- A row of a listed tree: what the node says about itself and how many children follow. -/
structure Row where
  head : CstHead
  count : Nat

/-- The trees that are listed by rows in pre-order. -/
def ofRows (rows : List Row) : List Cst :=
  rows.foldr (fun row later => node row.head (later.take row.count) :: later.drop row.count) []

end Cst

end ClassOutline
