import ClassOutline.Outline.Reduce
import ClassOutline.Proofs.Preorder
import Mathlib.Logic.Function.Iterate

/-!
# The order of members

A walk with a stack goes through a tree in pre-order, and ends after as many rounds as the tree has nodes. The first
class of a tree is the first one in that order, and the members of a declaration are listed in it: those of a node
itself come before those of the nodes in its slots.
-/
namespace ClassOutline.Syntax

private theorem Child.totalSize_toList (c : Child) : totalSize c.node?.toList = c.size := by
  cases c <;> simp [totalSize, Child.node?, Child.size]

private theorem totalSize_eq_zero_iff {ns : List Node} : totalSize ns = 0 ↔ ns = [] := by
  cases ns with
  | nil => simp [totalSize]
  | cons n ns =>
    have hn := totalSize_subnodes n
    simp only [totalSize, List.cons_ne_nil, iff_false]
    omega

private theorem totalSize_reverse (ns : List Node) : totalSize ns.reverse = totalSize ns := by
  induction ns with
  | nil => rfl
  | cons n ns ih =>
    rw [List.reverse_cons, totalSize_append, ih]
    simp only [totalSize]
    omega

/-! ### The walk step by step -/

/-- A walk that has visited some nodes. The next one is at the end of its stack. -/
structure Walk where
  stack : List Node
  visited : List Node

namespace Walk

def start (root : Child) : Walk :=
  ⟨root.node?.toList, []⟩

/-- One round: the node at the end of the stack is visited, and the nodes in its slots are put there, the first one
last. -/
def step (w : Walk) : Walk :=
  match w.stack.getLast? with
  | none => w
  | some n => ⟨w.stack.dropLast ++ n.subnodes.reverse, w.visited ++ [n]⟩

private theorem step_nil (visited : List Node) : step ⟨[], visited⟩ = ⟨[], visited⟩ := rfl

private theorem step_append (rest visited : List Node) (n : Node) :
    step ⟨rest ++ [n], visited⟩ = ⟨rest ++ n.subnodes.reverse, visited ++ [n]⟩ := by
  simp [step]

/-- The nodes visited so far and those still to come: all trees of the stack, from its end on. -/
def account (w : Walk) : List Node :=
  w.visited ++ w.stack.reverse.flatMap Node.preorder

private theorem account_step (w : Walk) : w.step.account = w.account := by
  obtain ⟨stack, visited⟩ := w
  rcases List.eq_nil_or_concat' stack with rfl | ⟨rest, n, rfl⟩
  · rw [step_nil]
  · rw [step_append]
    simp only [account, List.reverse_append, List.reverse_reverse, List.flatMap_append, Node.flatMap_subnodes,
      List.reverse_singleton, List.flatMap_cons, n.preorder_eq_cons, List.append_assoc,
      List.cons_append, List.nil_append]

private theorem totalSize_step (w : Walk) : totalSize w.step.stack = totalSize w.stack - 1 := by
  obtain ⟨stack, visited⟩ := w
  rcases List.eq_nil_or_concat' stack with rfl | ⟨rest, n, rfl⟩
  · rfl
  · have hn := totalSize_subnodes n
    rw [step_append]
    simp only [totalSize_append, totalSize_reverse, totalSize]
    omega

theorem run (w : Walk) (rounds : Nat) :
    (step^[rounds] w).account = w.account ∧ totalSize (step^[rounds] w).stack = totalSize w.stack - rounds := by
  induction rounds with
  | zero => exact ⟨rfl, rfl⟩
  | succ rounds ih =>
    rw [Function.iterate_succ_apply', account_step, totalSize_step]
    refine ⟨ih.1, ?_⟩
    rw [ih.2]
    omega

theorem account_start (root : Child) : (start root).account = root.preorder := by
  cases root <;> simp [start, account, Child.node?, Child.preorder]

/-- The walk is over exactly when it has made as many rounds as there are nodes. -/
theorem stack_eq_nil_iff (root : Child) (rounds : Nat) :
    (step^[rounds] (start root)).stack = [] ↔ root.size ≤ rounds := by
  have hstart : totalSize (start root).stack = root.size := root.totalSize_toList
  rw [← totalSize_eq_zero_iff, (run _ rounds).2, hstart]
  omega

private theorem visited_run (root : Child) : (step^[root.size] (start root)).visited = root.preorder := by
  have hend : (step^[root.size] (start root)).stack = [] := (stack_eq_nil_iff root root.size).mpr (Nat.le_refl _)
  have haccount := (run (start root) root.size).1
  rw [account, hend, account_start] at haccount
  simpa using haccount

end Walk

theorem Child.nodes_eq_preorder (c : Child) : c.nodes = c.preorder := by
  rw [Child.nodes, walk_eq_flatMap_preorder, Child.preorder_eq_flatMap]

private theorem Child.firstClass?_eq_none_iff (c : Child) :
    c.firstClass? = none ↔ ∀ n ∈ c.preorder, n.kind ≠ .classDecl := by
  simp [Child.firstClass?, Child.nodes_eq_preorder]

private theorem Child.firstClass?_eq_some_iff (c : Child) (n : Node) :
    c.firstClass? = some n ↔ n.kind = .classDecl ∧
      ∃ before after, c.preorder = before ++ n :: after ∧ ∀ m ∈ before, m.kind ≠ .classDecl := by
  simp [Child.firstClass?, Child.nodes_eq_preorder, List.find?_eq_some_iff_append]

end ClassOutline.Syntax

namespace ClassOutline.Outline

open Syntax

theorem flatMap_nodes_eq {α : Type} (own : Node → List α) (n : Node) :
    n.nodes.flatMap own = own n ++ n.subnodes.flatMap fun c => c.nodes.flatMap own := by
  simp only [Node.nodes_eq_preorder]
  rw [Node.preorder_eq_cons, List.flatMap_cons, ← Node.flatMap_subnodes, List.flatMap_assoc]

/-- The walk through a tree visits its nodes in pre-order, each of them once, and ends. The first class is one before
which that order has no class. The members of a node are its own, followed by those of the nodes in its slots. -/
theorem walk_finds_members_in_preorder (root : Child) :
    (root.nodes = root.preorder ∧
      (∀ rounds, (Walk.step^[rounds] (.start root)).stack = [] ↔ root.size ≤ rounds) ∧
      (Walk.step^[root.size] (.start root)).visited = root.preorder) ∧
    (root.firstClass? = none ↔ ∀ n ∈ root.preorder, n.kind ≠ .classDecl) ∧
    (∀ n, root.firstClass? = some n ↔ n.kind = .classDecl ∧
      ∃ before after, root.preorder = before ++ n :: after ∧ ∀ m ∈ before, m.kind ≠ .classDecl) ∧
    ∀ (filter : Filter) (n : Node),
      (summarize filter n).properties =
        ownProperties filter n ++ n.subnodes.flatMap (fun c => (summarize filter c).properties) ∧
      (summarize filter n).methods =
        ownMethods filter n ++ n.subnodes.flatMap fun c => (summarize filter c).methods := by
  refine ⟨⟨root.nodes_eq_preorder, Walk.stack_eq_nil_iff root, Walk.visited_run root⟩,
    root.firstClass?_eq_none_iff, root.firstClass?_eq_some_iff, ?_⟩
  intro filter n
  exact ⟨flatMap_nodes_eq _ n, flatMap_nodes_eq _ n⟩

end ClassOutline.Outline
