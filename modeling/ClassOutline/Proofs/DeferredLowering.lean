import ClassOutline.Concrete.Lowering
import ClassOutline.Proofs.Preorder
import Mathlib.Data.List.Perm.Basic
import Mathlib.Data.List.Nodup
import Mathlib.Data.List.Range

/-!
# Deferred lowering and plain recursion

Bodies are read later than the declarations they belong to, from numbered holes and in the order last opened, first
read. The result is nevertheless the tree of a plain recursion: a body is the numbered list of its declarations, and
the body of each declaration is such a list again. Every hole is opened once and filled once.
-/
namespace ClassOutline.Cst

open Syntax

/-! ### The plain recursion -/

mutual

/-- The list node of a body: its declarations, numbered from 0. -/
def lower (kind : Kind) (b : Cst) : Node :=
  .mk kind 0 b.line (Node.numbered (declarations b))
termination_by (b.size, 1)

/-- The declarations found in the named children of a node, in order. -/
def declarations (n : Cst) : List Node :=
  n.named.attach.flatMap fun c => contribution c.1
termination_by (n.size, 0)
decreasing_by
  have hc := size_le_of_mem c.2
  have hn := sizeAll_named_lt n
  exact Prod.Lex.left _ _ (Nat.lt_of_le_of_lt hc hn)

/-- What a node adds to the body around it: the declaration that it is, with its own body, or else what is found
in it. -/
def contribution (c : Cst) : List Node :=
  match _ : c.draft? with
  | some (.complete n) => [n]
  | some (.opened frame none) => [frame.close .absent]
  | some (.opened frame (some b)) => [frame.close (.node (lower .stmtList b))]
  | none => declarations c
termination_by (c.size, 1)
decreasing_by
  · rename_i hd
    have hb := size_le_of_mem (mem_children_of_draft? hd rfl)
    have hc := size_eq c
    exact Prod.Lex.left _ _ (by omega)
  · exact Prod.Lex.right _ Nat.zero_lt_one

end

theorem declarations_eq (n : Cst) : declarations n = n.named.flatMap contribution := by
  rw [declarations, List.flatMap_subtype (fun _ _ => rfl), List.unattach_attach]

theorem contribution_of_draft {c : Cst} {d : Draft Cst} (hd : c.draft? = some d) :
    contribution c = [d.close fun b => some (lower .stmtList b)] := by
  rw [contribution]
  split
  · rename_i n h
    obtain rfl := Option.some.inj (h.symm.trans hd)
    rfl
  · rename_i frame h
    obtain rfl := Option.some.inj (h.symm.trans hd)
    rfl
  · rename_i frame b h
    obtain rfl := Option.some.inj (h.symm.trans hd)
    rfl
  · rename_i h
    simp [hd] at h

theorem contribution_of_none {c : Cst} (hd : c.draft? = none) : contribution c = declarations c := by
  rw [contribution]
  split <;> simp_all

/-- Induction along the recursion: on the nodes that a node is searched through, and on the bodies of the
declarations found right below it. -/
theorem declarations_induction {motive : Cst → Prop}
    (step : ∀ n, (∀ c ∈ n.named, c.draft? = none → motive c) →
      (∀ c ∈ n.named, ∀ d b, c.draft? = some d → d.body? = some b → motive b) → motive n)
    (n : Cst) : motive n := by
  apply step
  · intro c hc _
    exact declarations_induction step c
  · intro c hc d b hd hb
    exact declarations_induction step b
termination_by n.size
decreasing_by
  · have hle := size_le_of_mem hc
    have hlt := sizeAll_named_lt n
    omega
  · have hle := size_le_of_mem hc
    have hlt := sizeAll_named_lt n
    have hb := size_le_of_mem (mem_children_of_draft? hd hb)
    have hc := size_eq c
    omega

/-! ### Reading one body -/

/-- The explicit stack of a scan finds what the recursion finds below each of its nodes, in order. -/
theorem map_close_scan (ns : List Cst) :
    (scan ns).map (Draft.close fun b => some (lower .stmtList b)) = ns.flatMap contribution := by
  fun_induction scan ns with
  | case1 => rfl
  | case2 n rest d hd ih =>
    rw [List.map_cons, ih, List.flatMap_cons, contribution_of_draft hd]
    rfl
  | case3 n rest hd ih =>
    rw [ih, List.flatMap_append, List.flatMap_cons, contribution_of_none hd, declarations_eq]

/-! ### Holes -/

/-- The holes that a filling opens for the bodies of its declarations. -/
def Filling.opened (f : Filling) : List Nat :=
  f.drafts.filterMap Draft.body?

/-- Closing the drafts of numbered bodies with what fills the holes is closing the drafts with the bodies' own
nodes. -/
theorem map_close_openHoles (next : Nat) (ds : List (Draft Cst)) (fill : Nat → Option Node)
    (own : Cst → Option Node) (h : ∀ j ∈ (openHoles next ds).2, fill j.hole = own j.body) :
    (openHoles next ds).1.map (Draft.close fill) = ds.map (Draft.close own) := by
  fun_induction openHoles next ds with
  | case1 => rfl
  | case2 next n ds drafts jobs hrec ih =>
    simp only [hrec] at h ih
    simp only [List.map_cons, ih h, Draft.close]
  | case3 next frame ds drafts jobs hrec ih =>
    simp only [hrec] at h ih
    simp only [List.map_cons, ih h, Draft.close, Option.bind_none]
  | case4 next frame b ds drafts jobs hrec ih =>
    simp only [hrec] at ih
    have hfirst := h ⟨b, next⟩ List.mem_cons_self
    have hrest := ih fun j hj => h j (List.mem_cons_of_mem _ hj)
    simp only [List.map_cons, hrest, Draft.close, Option.bind_some, hfirst]

/-- New holes are numbered without gaps. -/
theorem map_hole_openHoles (next : Nat) (ds : List (Draft Cst)) :
    (openHoles next ds).2.map Job.hole = List.range' next (openHoles next ds).2.length := by
  fun_induction openHoles next ds with
  | case1 => rfl
  | case2 next n ds drafts jobs hrec ih =>
    simp only [hrec] at ih
    exact ih
  | case3 next frame ds drafts jobs hrec ih =>
    simp only [hrec] at ih
    exact ih
  | case4 next frame b ds drafts jobs hrec ih =>
    simp only [hrec] at ih
    simp only [List.map_cons, List.length_cons, List.range'_succ, ih]

/-- The drafts name the holes of the jobs, in the same order. -/
theorem filterMap_body?_openHoles (next : Nat) (ds : List (Draft Cst)) :
    (openHoles next ds).1.filterMap Draft.body? = (openHoles next ds).2.map Job.hole := by
  fun_induction openHoles next ds with
  | case1 => rfl
  | case2 next n ds drafts jobs hrec ih =>
    simp only [hrec] at ih
    simpa only [List.filterMap_cons, Draft.body?] using ih
  | case3 next frame ds drafts jobs hrec ih =>
    simp only [hrec] at ih
    simpa only [List.filterMap_cons, Draft.body?] using ih
  | case4 next frame b ds drafts jobs hrec ih =>
    simp only [hrec] at ih
    simp only [List.filterMap_cons, Draft.body?, List.map_cons, ih]

/-! ### Draining -/

/-- Jobs that wait for different holes, all of them below the next free one. -/
structure Waiting (next : Nat) (jobs : List Job) : Prop where
  distinct : (jobs.map Job.hole).Nodup
  below : ∀ j ∈ jobs, j.hole < next

private theorem le_hole_of_mem_openHoles {next : Nat} {ds : List (Draft Cst)} {j : Job}
    (hj : j ∈ (openHoles next ds).2) :
    next ≤ j.hole ∧ j.hole < next + (openHoles next ds).2.length := by
  have hm : j.hole ∈ (openHoles next ds).2.map Job.hole := List.mem_map_of_mem hj
  rw [map_hole_openHoles] at hm
  exact List.mem_range'_1.mp hm

/-- When the job in front is done, the jobs that its body opened wait together with the others. -/
theorem Waiting.step {next : Nat} {job : Job} {rest : List Job} (h : Waiting next (job :: rest))
    (ds : List (Draft Cst)) :
    Waiting (next + (openHoles next ds).2.length) ((openHoles next ds).2.reverse ++ rest) := by
  have hrest : (rest.map Job.hole).Nodup := (List.nodup_cons.mp h.distinct).2
  constructor
  · rw [List.map_append, List.map_reverse, List.nodup_append, List.nodup_reverse, map_hole_openHoles]
    refine ⟨List.nodup_range', hrest, ?_⟩
    intro a ha b hb hab
    obtain ⟨j, hj, rfl⟩ := List.mem_map.mp hb
    have hlow := List.mem_range'_1.mp (List.mem_reverse.mp ha)
    have hlt := h.below j (List.mem_cons_of_mem _ hj)
    omega
  · intro j hj
    rcases List.mem_append.mp hj with hj | hj
    · exact (le_hole_of_mem_openHoles (List.mem_reverse.mp hj)).2
    · have hlt := h.below j (List.mem_cons_of_mem _ hj)
      omega

/-- No other job waits for the hole of the job in front. -/
theorem Waiting.hole_ne {next : Nat} {job j : Job} {rest : List Job} (h : Waiting next (job :: rest))
    (hj : j ∈ rest) : j.hole ≠ job.hole := by
  intro he
  exact (List.nodup_cons.mp h.distinct).1 (he ▸ List.mem_map_of_mem hj)

/-- The invariant of draining: each job that waits ends with its hole filled by the list of its own body. -/
theorem lookup_assemble_drain (next : Nat) (jobs : List Job) (h : Waiting next jobs) :
    ∀ j ∈ jobs, (assemble (drain next jobs)).lookup j.hole = some (lower .stmtList j.body) := by
  fun_induction drain next jobs with
  | case1 => simp
  | case2 next job rest opened ih =>
    have hlater := ih (h.step _)
    have hdrafts := map_close_openHoles next (scan job.body.named)
      (fun hole => (assemble (drain (next + opened.2.length) (opened.2.reverse ++ rest))).lookup hole)
      (fun b => some (lower .stmtList b))
      (fun j hj => hlater j (List.mem_append_left _ (List.mem_reverse.mpr hj)))
    intro j hj
    change List.lookup j.hole ((job.hole, _) :: assemble (drain _ _)) = _
    rcases List.mem_cons.mp hj with rfl | hj
    · rw [List.lookup_cons_self, Filling.node, lower, declarations_eq, ← map_close_scan, ← hdrafts,
        ← Node.list_map_node, List.map_map]
      rfl
    · have hne : j.hole ≠ job.hole := h.hole_ne hj
      rw [List.lookup_cons, beq_false_of_ne hne]
      exact hlater j (List.mem_append_right _ hj)

/-- Draining opens the free holes one after the other. -/
theorem flatMap_opened_drain (next : Nat) (jobs : List Job) :
    (drain next jobs).flatMap Filling.opened =
      List.range' next ((drain next jobs).flatMap Filling.opened).length := by
  fun_induction drain next jobs with
  | case1 => rfl
  | case2 next job rest opened ih =>
    have hown : Filling.opened ⟨job.hole, job.body.line, opened.1⟩ = List.range' next opened.2.length :=
      (filterMap_body?_openHoles _ _).trans (map_hole_openHoles _ _)
    rw [List.flatMap_cons, List.length_append, hown, List.length_range', ← List.range'_append_1, ← ih]

/-- Draining fills the holes of the jobs and those that it opens itself, and each of them once. -/
theorem map_hole_drain_perm (next : Nat) (jobs : List Job) :
    ((drain next jobs).map Filling.hole).Perm
      (jobs.map Job.hole ++ (drain next jobs).flatMap Filling.opened) := by
  fun_induction drain next jobs with
  | case1 => rfl
  | case2 next job rest opened ih =>
    have hown : Filling.opened ⟨job.hole, job.body.line, opened.1⟩ = opened.2.map Job.hole :=
      filterMap_body?_openHoles _ _
    rw [List.map_cons, List.map_cons, List.flatMap_cons, hown, List.cons_append]
    apply List.Perm.cons
    refine ih.trans ?_
    rw [List.map_append, ← List.append_assoc]
    apply List.Perm.append_right
    rw [List.map_reverse]
    exact ((List.reverse_perm _).append_right _).trans List.perm_append_comm

private theorem waiting_root (root : Cst) : Waiting 1 [⟨root, 0⟩] where
  distinct := List.nodup_singleton _
  below := by simp

/-- A lowered body is the list of the plain recursion. -/
theorem lowerBody_eq_lower (body : Cst) : body.lowerBody = lower .stmtList body := by
  rw [lowerBody, lookup_assemble_drain 1 [⟨body, 0⟩] (waiting_root body) ⟨body, 0⟩ List.mem_cons_self]
  rfl

theorem tree_of_no_error {root : Cst} (h : root.head.hasError = false) :
    root.tree = .ok (lower .stmtList root) := by
  simp [tree, fault?, h, lowerBody_eq_lower]

/-- The tree of a source is that of the plain recursion. On the way to it the holes 0, 1, … are opened, 0 for the
root and the others in this order, and each of them is filled exactly once. -/
theorem tree_eq_plain_recursion (root : Cst) (h : root.head.hasError = false) :
    root.tree = .ok (lower .stmtList root) ∧
      0 :: (drain 1 [⟨root, 0⟩]).flatMap Filling.opened = List.range (drain 1 [⟨root, 0⟩]).length ∧
      ((drain 1 [⟨root, 0⟩]).map Filling.hole).Perm (List.range (drain 1 [⟨root, 0⟩]).length) := by
  have hperm := map_hole_drain_perm 1 [⟨root, 0⟩]
  have hlen : (drain 1 [⟨root, 0⟩]).length = ((drain 1 [⟨root, 0⟩]).flatMap Filling.opened).length + 1 := by
    simpa using hperm.length_eq
  have hopened : 0 :: (drain 1 [⟨root, 0⟩]).flatMap Filling.opened =
      List.range (drain 1 [⟨root, 0⟩]).length := by
    rw [hlen, List.range_eq_range', List.range'_succ, ← flatMap_opened_drain]
  refine ⟨tree_of_no_error h, hopened, ?_⟩
  rw [← hopened]
  exact hperm

/-- A construct without text on the first row. -/
def construct (type : String) (field : Option String) (children : List Cst) : Cst :=
  .node ⟨type, field, 0, .empty, true, false, false⟩ children

def innerClass : Cst :=
  construct "object_creation_expression" none [construct "declaration_list" none
    [construct "property_declaration" none [],
      construct "method_declaration" none [construct "compound_statement" (some "body") []]]]

def outerMethod : Cst :=
  construct "method_declaration" none [construct "compound_statement" (some "body")
    [construct "return_statement" none [innerClass]]]

def outerClass : Cst :=
  construct "class_declaration" none [construct "declaration_list" (some "body")
    [outerMethod, construct "method_declaration" none []]]

/-- A class with two methods, where the body of the first holds an anonymous class with a method of its own. -/
def nestedClasses : Cst :=
  construct "program" none [outerClass]

theorem nestedClasses_tree :
    nestedClasses.head.hasError = false ∧
      nestedClasses.tree = .ok (lower .stmtList nestedClasses) ∧
      0 :: (drain 1 [⟨nestedClasses, 0⟩]).flatMap Filling.opened =
        List.range (drain 1 [⟨nestedClasses, 0⟩]).length ∧
      ((drain 1 [⟨nestedClasses, 0⟩]).map Filling.hole).Perm
        (List.range (drain 1 [⟨nestedClasses, 0⟩]).length) :=
  ⟨rfl, tree_eq_plain_recursion nestedClasses rfl⟩

end ClassOutline.Cst
