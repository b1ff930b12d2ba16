import ClassOutline.Concrete.Fault
import ClassOutline.Concrete.Members

/-!
From a concrete tree to a syntax tree that keeps the declarations only.

A body becomes the list of the declarations found in it, in source order; statements and expressions are
looked through. The bodies of those declarations are not read at once. Each of them becomes a numbered hole
and a job to read it later, the job opened last being done first, so the depth of the work does not grow with the
nesting of the source. When no job is left the holes are filled, those opened last before the others.
-/
namespace ClassOutline.Cst

open Syntax

/-- A declaration without its body: the slots before the body and those after it. -/
structure Frame where
  kind : Kind
  flags : Int
  line : Nat
  before : List (Slot × Child)
  after : List (Slot × Child)

def Frame.close (frame : Frame) (body : Child) : Node :=
  .mk frame.kind frame.flags frame.line (frame.before ++ (.named "stmts", body) :: frame.after)

/-- A declaration, complete or with a body that is still to be filled in. -/
inductive Draft (β : Type) where
  | complete (n : Node)
  | opened (frame : Frame) (body : Option β)

def Draft.body? {β : Type} : Draft β → Option β
  | complete _ => none
  | opened _ body => body

def Draft.close {β : Type} (body : β → Option Node) : Draft β → Node
  | complete n => n
  | opened frame b => frame.close (.ofNode? (b.bind body))

/-! ### Declarations -/

def lastClause? (n : Cst) (types : List String) : Option Cst :=
  (n.named.filter fun c => types.contains c.type).getLast?

/-- The clause that lists the interfaces. The parents of an interface are its interfaces. -/
def interfaceClause? (n : Cst) : Option Cst :=
  if n.type == "interface_declaration" then n.lastClause? ["base_clause", "class_interface_clause"]
  else n.lastClause? ["class_interface_clause"]

def parentName? (n : Cst) : Option Node :=
  if n.type == "interface_declaration" then none
  else (n.lastClause? ["base_clause"]).bind fun clause => clause.clauseNames.head?

def classBody? (n : Cst) : Option Cst :=
  (n.field? "body").orElse fun _ => n.namedOf? ["declaration_list", "enum_declaration_list"]

/-- A class, interface, trait, enum or anonymous class. -/
def classDraft (n : Cst) : Draft Cst :=
  .opened ⟨.classDecl, 0, n.line,
    [(.named "name", .ofText? ((n.field? "name").map text)), (.named "docComment", .absent),
      (.named "extends", .ofNode? n.parentName?), (.named "implements", .ofNode? (n.interfaceClause?.map nameList))],
    []⟩ n.classBody?

def callableDraft (kind : Kind) (flags : Int) (n : Cst) : Draft Cst :=
  .opened ⟨kind, flags, n.line,
    [(.named "name", .ofText? ((n.field? "name").map text)), (.named "docComment", .absent),
      (.named "params", .ofNode? ((n.field? "parameters").map parameterList))],
    [(.named "returnType", typeTree? n.returnTypePart?), (.named "attributes", .absent)]⟩ (n.field? "body")

/-- Class-like nodes. In some versions of the grammar an expression that makes an object holds the body of its
anonymous class itself. -/
def isClassLike (n : Cst) : Bool :=
  ["class_declaration", "interface_declaration", "trait_declaration", "enum_declaration",
    "anonymous_class"].contains n.type ||
  (n.type == "object_creation_expression" && n.named.any fun c => c.type == "declaration_list")

def draft? (n : Cst) : Option (Draft Cst) :=
  if n.isClassLike then some n.classDraft
  else match n.type with
    | "property_declaration" => some (.complete n.propertyGroup)
    | "method_declaration" => some (n.callableDraft .method n.memberFlags)
    | "function_definition" => some (n.callableDraft .funcDecl 0)
    | _ => none

theorem mem_children_of_field? {n c : Cst} {name : String} (h : n.field? name = some c) : c ∈ n.children :=
  List.mem_of_find?_eq_some h

private theorem mem_children_of_namedOf? {n c : Cst} {types : List String} (h : n.namedOf? types = some c) :
    c ∈ n.children :=
  (List.mem_filter.1 (List.mem_of_find?_eq_some h)).1

theorem mem_children_of_classBody? {n c : Cst} (h : n.classBody? = some c) : c ∈ n.children := by
  unfold classBody? at h
  cases hf : n.field? "body" with
  | some b =>
    rw [hf] at h
    simp only [Option.orElse_some, Option.some.injEq] at h
    exact h ▸ mem_children_of_field? hf
  | none =>
    rw [hf] at h
    exact mem_children_of_namedOf? h

/-- The body of a declaration is one of its children. -/
theorem mem_children_of_draft? {n c : Cst} {d : Draft Cst} (hd : n.draft? = some d) (hc : d.body? = some c) :
    c ∈ n.children := by
  unfold draft? at hd
  split at hd
  · obtain rfl := Option.some.inj hd
    exact mem_children_of_classBody? hc
  · split at hd
    · obtain rfl := Option.some.inj hd
      simp [Draft.body?] at hc
    · obtain rfl := Option.some.inj hd
      exact mem_children_of_field? hc
    · obtain rfl := Option.some.inj hd
      exact mem_children_of_field? hc
    · simp at hd

/-! ### Reading one body -/

/-- The declarations among the nodes of a list and below those of them that are none, in order. -/
def scan : List Cst → List (Draft Cst)
  | [] => []
  | n :: rest =>
    match n.draft? with
    | some d => d :: scan rest
    | none => scan (n.named ++ rest)
termination_by ns => sizeAll ns
decreasing_by
  · have := size_eq n
    simp only [sizeAll]
    omega
  · rw [sizeAll_append]
    have := sizeAll_named_lt n
    simp only [sizeAll]
    omega

def bodies (ds : List (Draft Cst)) : List Cst :=
  ds.filterMap Draft.body?

/-- The bodies that a scan leaves to be read are parts of what was scanned. -/
theorem sizeAll_bodies_scan_le (ns : List Cst) : sizeAll (bodies (scan ns)) ≤ sizeAll ns := by
  fun_induction scan ns with
  | case1 => simp [bodies, sizeAll]
  | case2 n rest d hd ih =>
    have hn := size_eq n
    cases hb : d.body? with
    | none =>
      simp only [bodies, List.filterMap_cons, hb] at ih ⊢
      simp only [sizeAll]
      omega
    | some b =>
      have := size_le_of_mem (mem_children_of_draft? hd hb)
      simp only [bodies, List.filterMap_cons, hb] at ih ⊢
      simp only [sizeAll]
      omega
  | case3 n rest _ ih =>
    rw [sizeAll_append] at ih
    have := sizeAll_named_lt n
    simp only [sizeAll]
    omega

/-! ### Holes and jobs -/

/-- A body that is still to be read, and the hole that it fills. -/
structure Job where
  body : Cst
  hole : Nat

/-- What fills a hole: the line of the body and its declarations, with holes for their bodies. -/
structure Filling where
  hole : Nat
  line : Nat
  drafts : List (Draft Nat)

/-- Number the bodies of drafts from `next` on: the drafts with holes, and the jobs to fill them. -/
def openHoles (next : Nat) : List (Draft Cst) → List (Draft Nat) × List Job
  | [] => ([], [])
  | .complete n :: ds =>
    let (drafts, jobs) := openHoles next ds
    (.complete n :: drafts, jobs)
  | .opened frame none :: ds =>
    let (drafts, jobs) := openHoles next ds
    (.opened frame none :: drafts, jobs)
  | .opened frame (some body) :: ds =>
    let (drafts, jobs) := openHoles (next + 1) ds
    (.opened frame (some next) :: drafts, ⟨body, next⟩ :: jobs)

def jobSize (jobs : List Job) : Nat :=
  sizeAll (jobs.map Job.body)

private theorem map_body_openHoles (next : Nat) (ds : List (Draft Cst)) :
    (openHoles next ds).2.map Job.body = bodies ds := by
  fun_induction openHoles next ds <;> simp_all [bodies, Draft.body?, List.filterMap_cons]

private theorem sizeAll_reverse (cs : List Cst) : sizeAll cs.reverse = sizeAll cs := by
  induction cs with
  | nil => rfl
  | cons c cs ih =>
    rw [List.reverse_cons, sizeAll_append, ih]
    simp only [sizeAll]
    omega

/-- The jobs that a body leaves are together smaller than the body. -/
theorem jobSize_openHoles_lt (next : Nat) (body : Cst) :
    jobSize (openHoles next (scan body.named)).2.reverse < body.size := by
  rw [jobSize, List.map_reverse, sizeAll_reverse, map_body_openHoles]
  exact Nat.lt_of_le_of_lt (sizeAll_bodies_scan_le _) (sizeAll_named_lt _)

/-- Do all jobs, those opened last first. Holes from `next` on are free. -/
def drain (next : Nat) : List Job → List Filling
  | [] => []
  | job :: rest =>
    let opened := openHoles next (scan job.body.named)
    ⟨job.hole, job.body.line, opened.1⟩ :: drain (next + opened.2.length) (opened.2.reverse ++ rest)
termination_by jobs => jobSize jobs
decreasing_by
  have := jobSize_openHoles_lt next job.body
  simp only [jobSize, List.map_append, List.map_cons, sizeAll, sizeAll_append] at this ⊢
  omega

/-- The list node of a filling, where the fillings of its own holes are at hand. -/
def Filling.node (done : List (Nat × Node)) (f : Filling) : Node :=
  .list .stmtList (f.drafts.map fun d => .node (d.close fun hole => done.lookup hole)) f.line

/-- The list nodes of all holes; a filling's own holes are filled by later ones. -/
def assemble (fillings : List Filling) : List (Nat × Node) :=
  fillings.foldr (fun f done => (f.hole, f.node done) :: done) []

def lowerBody (body : Cst) : Node :=
  ((assemble (drain 1 [⟨body, 0⟩])).lookup 0).getD default

/-- The syntax tree of a source, or the error for which its concrete tree is refused. -/
def tree (root : Cst) : Except SyntaxFault Node :=
  match root.fault? with
  | some fault => .error fault
  | none => .ok root.lowerBody

end ClassOutline.Cst
