import ClassOutline.Concrete.Lowering
import Mathlib.Data.List.Basic
import Mathlib.Data.List.Find
import Mathlib.Logic.Function.Iterate

/-!
# The search for a syntax error

The search looks below a node only if the node says that it has an error. So it finds the first error, in pre-order,
that no node above hides. If every node says truly whether there is an error at or below it, none is hidden.
-/
namespace ClassOutline.SyntaxFault

private theorem exists_message_eq (fault : SyntaxFault) :
    ∃ before, fault.message = before ++ s!"on line {fault.line}" := by
  have htoken : "' on line " = "' " ++ "on line " := by decide
  have hend : "syntax error, unexpected end of file on line " =
      "syntax error, unexpected end of file " ++ "on line " := by decide
  have hinput : "syntax error, unexpected input on line " = "syntax error, unexpected input " ++ "on line " := by decide
  have hsplit (a b c d : String) : a ++ (b ++ c) ++ d = a ++ b ++ (c ++ d) := by simp only [String.append_assoc]
  unfold message line
  cases fault with
  | missing type l =>
    dsimp only
    rw [htoken]
    exact ⟨_, hsplit _ _ _ _⟩
  | unexpected token l =>
    dsimp only
    rw [htoken]
    exact ⟨_, hsplit _ _ _ _⟩
  | endOfFile l =>
    dsimp only
    rw [hend]
    exact ⟨_, String.append_assoc⟩
  | unexplained l =>
    dsimp only
    rw [hinput]
    exact ⟨_, String.append_assoc⟩

end ClassOutline.SyntaxFault

namespace ClassOutline.Cst

/-! ### Nodes and the nodes above them -/

/-- A node of a tree, with the nodes above it, the nearest first. -/
structure Occurrence where
  above : List Cst
  node : Cst

mutual

/-- The nodes of a tree below some others, each before its children and these in their order. -/
def occurrences (above : List Cst) : Cst → List Occurrence
  | .node head children => ⟨above, .node head children⟩ :: occurrencesAll (.node head children :: above) children

def occurrencesAll (above : List Cst) : List Cst → List Occurrence
  | [] => []
  | c :: cs => occurrences above c ++ occurrencesAll above cs

end

private theorem occurrences_eq (above : List Cst) (n : Cst) :
    occurrences above n = ⟨above, n⟩ :: n.children.flatMap (occurrences (n :: above)) := by
  have hall (above cs : List Cst) : occurrencesAll above cs = cs.flatMap (occurrences above) := by
    induction cs with
    | nil => rfl
    | cons c cs ih => rw [occurrencesAll, ih, List.flatMap_cons]
  obtain ⟨head, children⟩ := n
  rw [occurrences, hall]
  rfl

/-- All nodes of a tree in pre-order. -/
def preorder (n : Cst) : List Cst :=
  (occurrences [] n).map Occurrence.node

private theorem map_node_occurrences (above : List Cst) (n : Cst) :
    (occurrences above n).map Occurrence.node = n.preorder := by
  rw [preorder]
  generalize ([] : List Cst) = above'
  induction n using children_induction generalizing above above' with
  | step n ih =>
    simp only [occurrences_eq _ n, List.map_cons, List.map_flatMap, List.cons.injEq, true_and]
    apply List.flatMap_congr
    intro c hc
    exact ih c hc _ _

private theorem preorder_eq (n : Cst) : n.preorder = n :: n.children.flatMap preorder := by
  rw [preorder, occurrences_eq, List.map_cons, List.map_flatMap]
  simp only [map_node_occurrences]

/-! ### What the search comes to -/

/-- An error that no node above hides. -/
def Occurrence.isShown (o : Occurrence) : Bool :=
  o.node.isFault && o.above.all (·.head.hasError)

/-- The first error, in pre-order, that no node above hides. -/
def firstShown? (root : Cst) : Option Cst :=
  ((occurrences [] root).find? Occurrence.isShown).map Occurrence.node

/-- The errors of a tree below some nodes that neither these nor others hide. -/
def shown (above : List Cst) (n : Cst) : List Cst :=
  ((occurrences above n).filter Occurrence.isShown).map Occurrence.node

private theorem subset_above {above : List Cst} {n : Cst} {o : Occurrence} (h : o ∈ occurrences above n) :
    above ⊆ o.above := by
  induction n using children_induction generalizing above with
  | step n ih =>
    rw [occurrences_eq, List.mem_cons, List.mem_flatMap] at h
    rcases h with rfl | ⟨c, hc, h⟩
    · exact List.Subset.refl _
    · exact List.Subset.trans (List.subset_cons_self n above) (ih c hc h)

private theorem shown_eq_nil {above : List Cst} {a : Cst} (ha : a ∈ above) (hbit : a.head.hasError = false) (n : Cst) :
    shown above n = [] := by
  rw [shown, List.map_eq_nil_iff, List.filter_eq_nil_iff]
  intro o ho hshown
  simp only [Occurrence.isShown, Bool.and_eq_true, List.all_eq_true] at hshown
  have htrue := hshown.2 a (subset_above ho ha)
  rw [hbit] at htrue
  exact Bool.noConfusion htrue

private theorem shown_eq {above : List Cst} (h : above.all (·.head.hasError) = true) (n : Cst) :
    shown above n = (if n.isFault then [n] else []) ++ n.children.flatMap (shown (n :: above)) := by
  have hhere : Occurrence.isShown ⟨above, n⟩ = n.isFault := by simp [Occurrence.isShown, h]
  have hbelow : ((n.children.flatMap (occurrences (n :: above))).filter Occurrence.isShown).map Occurrence.node =
      n.children.flatMap (shown (n :: above)) := by
    rw [List.filter_flatMap, List.map_flatMap]
    rfl
  rw [shown, occurrences_eq, List.filter_cons, hhere, ← hbelow]
  split <;> rfl

/-- Which errors are shown does not depend on the nodes above, as long as these hide nothing. -/
theorem shown_congr {above above' : List Cst} (h : above.all (·.head.hasError) = true)
    (h' : above'.all (·.head.hasError) = true) (n : Cst) : shown above n = shown above' n := by
  induction n using children_induction generalizing above above' with
  | step n ih =>
    rw [shown_eq h, shown_eq h']
    congr 1
    apply List.flatMap_congr
    intro c hc
    cases hbit : n.head.hasError with
    | false => rw [shown_eq_nil List.mem_cons_self hbit, shown_eq_nil List.mem_cons_self hbit]
    | true => exact ih c hc (by simp [hbit, h]) (by simp [hbit, h'])

private theorem shown_root (n : Cst) :
    shown [] n = (if n.isFault then [n] else []) ++ (if n.head.hasError then n.children else []).flatMap (shown []) := by
  rw [shown_eq rfl]
  congr 1
  cases hbit : n.head.hasError with
  | false =>
    rw [if_neg Bool.false_ne_true, List.flatMap_nil, List.flatMap_eq_nil_iff]
    intro c _
    exact shown_eq_nil List.mem_cons_self hbit c
  | true =>
    rw [if_pos rfl]
    apply List.flatMap_congr
    intro c _
    exact shown_congr (by simp [hbit]) rfl c

private theorem head?_shown (root : Cst) : (shown [] root).head? = root.firstShown? := by
  rw [shown, List.head?_map, List.head?_filter, firstShown?]

private theorem firstFault?_eq_head? (ns : List Cst) : firstFault? ns = (ns.flatMap (shown [])).head? := by
  fun_induction firstFault? ns with
  | case1 => rfl
  | case2 n rest hfault =>
    rw [List.flatMap_cons, shown_root, if_pos hfault]
    rfl
  | case3 n rest hfault ih =>
    simp only [dite_eq_ite] at ih
    rw [ih, List.flatMap_append, List.flatMap_cons, shown_root n, if_neg hfault, List.nil_append]

private theorem firstFault?_root (root : Cst) : firstFault? [root] = root.firstShown? := by
  rw [firstFault?_eq_head?, List.flatMap_singleton, head?_shown]

/-! ### The search step by step -/

/-- A search goes on with a stack of trees, the next one at its end, or is over. -/
inductive Search where
  | running (stack : List Cst)
  | ended (found : Option Cst)

/-- One round: the tree at the end of the stack is taken, and its children are put there with the first one last. -/
def Search.step : Search → Search
  | running stack =>
    match stack.getLast? with
    | none => ended none
    | some n =>
      if n.isFault then ended (some n)
      else running (stack.dropLast ++ if n.head.hasError then n.children.reverse else [])
  | ended found => ended found

theorem Search.exists_ended (ns : List Cst) :
    ∃ rounds ≤ sizeAll ns + 1, step^[rounds] (running ns.reverse) = ended (firstFault? ns) := by
  fun_induction firstFault? ns with
  | case1 => exact ⟨1, Nat.le_refl _, rfl⟩
  | case2 n rest hfault =>
    refine ⟨1, Nat.le_add_left _ _, ?_⟩
    simp [step, hfault]
  | case3 n rest hfault ih =>
    simp only [dite_eq_ite] at ih
    obtain ⟨rounds, hle, hrun⟩ := ih
    have hstep : step (running (n :: rest).reverse) =
        running ((if n.head.hasError then n.children else []) ++ rest).reverse := by
      cases hbit : n.head.hasError <;> simp [step, hfault, hbit]
    have hsize : sizeAll ((if n.head.hasError then n.children else []) ++ rest) < sizeAll (n :: rest) := by
      have hn := size_eq n
      rw [sizeAll_append]
      split <;> simp only [sizeAll] <;> omega
    refine ⟨rounds + 1, by omega, ?_⟩
    rw [Function.iterate_succ_apply, hstep, hrun]

/-! ### Trees that tell the truth -/

/-- Every node says that it has an error exactly if it is one or one of its children says so. -/
def Consistent (root : Cst) : Prop :=
  ∀ n ∈ root.preorder, (n.head.hasError = true ↔ n.isFault = true ∨ ∃ c ∈ n.children, c.head.hasError = true)

theorem Consistent.root {n : Cst} (h : n.Consistent) :
    n.head.hasError = true ↔ n.isFault = true ∨ ∃ c ∈ n.children, c.head.hasError = true := by
  apply h
  rw [preorder_eq]
  exact List.mem_cons_self

theorem Consistent.child {n c : Cst} (h : n.Consistent) (hc : c ∈ n.children) : c.Consistent := by
  intro m hm
  apply h
  rw [preorder_eq]
  exact List.mem_cons_of_mem _ (List.mem_flatMap.mpr ⟨c, hc, hm⟩)

/-- An error is announced by all nodes above it. -/
theorem Consistent.announced {n : Cst} (h : n.Consistent) {above : List Cst} {o : Occurrence}
    (ho : o ∈ occurrences above n) (hfault : o.node.isFault = true) :
    n.head.hasError = true ∧ ∀ a ∈ o.above, a ∈ above ∨ a.head.hasError = true := by
  induction n using children_induction generalizing above with
  | step n ih =>
    rw [occurrences_eq, List.mem_cons, List.mem_flatMap] at ho
    rcases ho with rfl | ⟨c, hc, ho⟩
    · exact ⟨h.root.mpr (.inl hfault), fun a ha => .inl ha⟩
    · obtain ⟨hbit, habove⟩ := ih c hc (h.child hc) ho
      have hn : n.head.hasError = true := h.root.mpr (.inr ⟨c, hc, hbit⟩)
      refine ⟨hn, ?_⟩
      intro a ha
      rcases habove a ha with hmem | hbit
      · rcases List.mem_cons.mp hmem with rfl | hmem
        · exact .inr hn
        · exact .inl hmem
      · exact .inr hbit

private theorem Consistent.exists_fault {n : Cst} (h : n.Consistent) (hbit : n.head.hasError = true) :
    ∃ m ∈ n.preorder, m.isFault = true := by
  induction n using children_induction with
  | step n ih =>
    simp only [preorder_eq n, List.mem_cons, List.mem_flatMap]
    rcases h.root.mp hbit with hfault | ⟨c, hc, hbit⟩
    · exact ⟨n, .inl rfl, hfault⟩
    · obtain ⟨m, hm, hfault⟩ := ih c hc (h.child hc) hbit
      exact ⟨m, .inr ⟨c, hc, hm⟩, hfault⟩

private theorem Consistent.hasError_iff {root : Cst} (h : root.Consistent) :
    root.head.hasError = true ↔ ∃ n ∈ root.preorder, n.isFault = true := by
  constructor
  · exact h.exists_fault
  · rintro ⟨n, hn, hfault⟩
    obtain ⟨o, ho, rfl⟩ := List.mem_map.mp hn
    exact (h.announced ho hfault).1

private theorem Consistent.firstShown?_eq {root : Cst} (h : root.Consistent) :
    root.firstShown? = root.preorder.find? isFault := by
  have hshown : ∀ o ∈ occurrences [] root, o.isShown = o.node.isFault := by
    intro o ho
    cases hfault : o.node.isFault with
    | false => rw [Occurrence.isShown, hfault, Bool.false_and]
    | true =>
      have habove : o.above.all (·.head.hasError) = true := by
        rw [List.all_eq_true]
        intro a ha
        exact ((h.announced ho hfault).2 a ha).resolve_left List.not_mem_nil
      rw [Occurrence.isShown, hfault, habove, Bool.and_self]
  rw [firstShown?, preorder, List.find?_map, List.find?_congr hshown]
  rfl

/-! ### The error of a tree -/

private theorem line_describeFault (n : Cst) : n.describeFault.line = n.head.row + 1 := by
  unfold describeFault
  split
  · rfl
  · split <;> rfl

private theorem describeFault_ne_unexplained (n : Cst) (line : Nat) : n.describeFault ≠ .unexplained line := by
  unfold describeFault
  split
  · exact SyntaxFault.noConfusion
  · split <;> exact SyntaxFault.noConfusion

private theorem tree_of_hasError {root : Cst} (h : root.head.hasError = true) :
    root.tree = .error ((root.firstShown?.map describeFault).getD (.unexplained root.line)) := by
  rw [tree, fault?, if_pos h, firstFault?_root]
  cases root.firstShown? <;> rfl

private theorem exists_tree_of_not_hasError {root : Cst} (h : ¬root.head.hasError = true) : ∃ t, root.tree = .ok t := by
  rw [tree, fault?, if_neg h]
  exact ⟨_, rfl⟩

theorem exists_error_iff (root : Cst) : (∃ fault, root.tree = .error fault) ↔ root.head.hasError = true := by
  constructor
  · rintro ⟨fault, hfault⟩
    by_contra hbit
    obtain ⟨t, ht⟩ := exists_tree_of_not_hasError hbit
    rw [ht] at hfault
    cases hfault
  · intro hbit
    exact ⟨_, tree_of_hasError hbit⟩

/-- The fault says what a node is that is an error, and on which line. -/
structure Describes (fault : SyntaxFault) (n : Cst) : Prop where
  text : fault = n.describeFault
  line : fault.line = n.head.row + 1
  ending : ∃ before, fault.message = before ++ s!"on line {fault.line}"
  explained : ∀ line, fault ≠ .unexplained line

private theorem describes_describeFault (n : Cst) : Describes n.describeFault n where
  text := rfl
  line := n.line_describeFault
  ending := n.describeFault.exists_message_eq
  explained := n.describeFault_ne_unexplained

/-- A tree is refused exactly if its root says that it has an error. The search for the error ends, and the fault
describes the first error in pre-order that no node above hides, or names the line of the root if there is none. If
every node tells the truth, a tree is refused exactly if it has an error anywhere, and for the first of its errors. -/
theorem refused_for_first_error (root : Cst) :
    ((∃ fault, root.tree = .error fault) ↔ root.head.hasError = true) ∧
    (∃ rounds ≤ root.size + 1, Search.step^[rounds] (.running [root]) = .ended root.firstShown?) ∧
    (∀ fault, root.tree = .error fault →
      (∀ n, root.firstShown? = some n → Describes fault n) ∧
      (root.firstShown? = none → fault = .unexplained (root.head.row + 1))) ∧
    (root.Consistent →
      ((∃ fault, root.tree = .error fault) ↔ ∃ n ∈ root.preorder, n.isFault = true) ∧
      ∀ fault, root.tree = .error fault → ∃ n, root.preorder.find? isFault = some n ∧ Describes fault n) := by
  have hreported : ∀ fault, root.tree = .error fault →
      fault = (root.firstShown?.map describeFault).getD (.unexplained root.line) := by
    intro fault hfault
    have hbit : root.head.hasError = true := (exists_error_iff root).mp ⟨fault, hfault⟩
    rw [tree_of_hasError hbit] at hfault
    exact (Except.error.inj hfault).symm
  have hdescribed : ∀ fault, root.tree = .error fault → ∀ n, root.firstShown? = some n → Describes fault n := by
    intro fault hfault n hn
    rw [hreported fault hfault, hn]
    exact describes_describeFault n
  refine ⟨exists_error_iff root, ?_, ?_, ?_⟩
  · obtain ⟨rounds, hle, hrun⟩ := Search.exists_ended [root]
    rw [firstFault?_root] at hrun
    refine ⟨rounds, ?_, hrun⟩
    simpa [sizeAll] using hle
  · intro fault hfault
    refine ⟨hdescribed fault hfault, ?_⟩
    intro hnone
    rw [hreported fault hfault, hnone]
    rfl
  · intro hconsistent
    have hiff := (exists_error_iff root).trans hconsistent.hasError_iff
    refine ⟨hiff, ?_⟩
    intro fault hfault
    obtain ⟨m, hm, hmfault⟩ := hiff.mp ⟨fault, hfault⟩
    obtain ⟨n, hn⟩ := Option.isSome_iff_exists.mp (List.find?_isSome.mpr ⟨m, hm, hmfault⟩)
    exact ⟨n, hn, hdescribed fault hfault n (hconsistent.firstShown?_eq.trans hn)⟩

/-- A node without a text. -/
def bare (type : String) (row : Nat) (missing hasError : Bool) (children : List Cst) : Cst :=
  .node ⟨type, none, row, .empty, false, missing, hasError⟩ children

/-- A tree with a missing token in its second statement and an error in the third. -/
def twoErrors : Cst :=
  bare "program" 0 false true
    [bare "comment" 1 false false [], bare "statement" 2 false true [bare ";" 4 true true []],
      bare "ERROR" 6 false true [bare "name" 6 false false []]]

/-- A tree whose root says that it has an error, while the node above its only error does not. -/
def hiddenError : Cst :=
  bare "program" 2 false true [bare "statement" 3 false false [bare "ERROR" 4 false true []]]

theorem twoErrors_refused :
    twoErrors.Consistent ∧ twoErrors.tree = .error (.missing ";" 5) ∧
      hiddenError.tree = .error (.unexplained 3) := by
  have hconsistent : twoErrors.Consistent := by
    simp [Consistent, preorder, occurrences, occurrencesAll, twoErrors, bare, isFault, head, children, type]
  obtain ⟨hiff, _, _, htruth⟩ := refused_for_first_error twoErrors
  obtain ⟨fault, hfault⟩ := hiff.mpr rfl
  obtain ⟨n, hn, hdescribes⟩ := (htruth hconsistent).2 fault hfault
  obtain ⟨hiff', _, hhidden, _⟩ := refused_for_first_error hiddenError
  obtain ⟨fault', hfault'⟩ := hiff'.mpr rfl
  refine ⟨hconsistent, ?_, ?_⟩
  · have hfirst : twoErrors.preorder.find? isFault = some (bare ";" 4 true true []) := rfl
    rw [hfirst] at hn
    cases hn
    rw [hfault, hdescribes.text]
    rfl
  · rw [hfault', (hhidden fault' hfault').2 rfl]
    rfl

end ClassOutline.Cst
