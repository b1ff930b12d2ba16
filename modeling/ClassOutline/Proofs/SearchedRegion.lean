import ClassOutline.Outline.Reduce
import ClassOutline.Proofs.LoweredGrammar

/-!
# Outlines and searched regions

What an outline lists can be read off the concrete tree. The searched region of a node are the declarations met in
its named children; a declaration is entered through its body only, and a property declaration not at all. The
outline is that of the first class in the region of the root, and its members are those in the region of that class.
-/
namespace ClassOutline.Syntax

/-! ### The declarations of a tree -/

/-- The declarations of a tree, in pre-order. -/
def Node.decls (n : Node) : List Node :=
  n.preorder.filter fun m => m.kind.isDeclaration

private theorem Node.decls_eq (n : Node) :
    n.decls = (if n.kind.isDeclaration then [n] else []) ++ n.subnodes.flatMap Node.decls := by
  have hbelow : n.subnodes.flatMap Node.decls =
      (Child.preorderAll n.children).filter fun m => m.kind.isDeclaration := by
    rw [← Node.flatMap_subnodes, List.filter_flatMap]
    rfl
  rw [hbelow, Node.decls, Node.preorder_eq_cons, List.filter_cons]
  split <;> rfl

private theorem Node.subnodes_eq_flatMap (n : Node) : n.subnodes = n.children.flatMap fun x => x.2.node?.toList :=
  List.filterMap_eq_flatMap_toList ..

private theorem DeclFree.decls_eq_nil {n : Node} (h : DeclFree n) : n.decls = [] := by
  rw [Node.decls, List.filter_eq_nil_iff]
  intro m hm
  simp [h m hm]

private theorem flatMap_decls_of_declFree {o : Option Node} (h : ∀ n ∈ o, DeclFree n) :
    o.toList.flatMap Node.decls = [] := by
  cases o with
  | none => rfl
  | some n => rw [Option.toList_some, List.flatMap_singleton, (h n rfl).decls_eq_nil]

theorem Node.node?_of_child? {n : Node} {name : String} {o : Option Node}
    (h : n.child? (.named name) = some (.ofNode? o)) : n.node? name = o := by
  rw [Node.node?, h]
  cases o <;> rfl

private theorem Node.text?_of_child? {n : Node} {name : String} {o : Option String}
    (h : n.child? (.named name) = some (.ofText? o)) : n.text? name = o := by
  rw [Node.text?, h]
  cases o <;> rfl

/-- Below a declaration there are no declarations but those of its body. -/
theorem DeclNode.decls_eq {n : Node} (h : DeclNode n) :
    n.decls = n :: (n.node? "stmts").toList.flatMap Node.decls := by
  rw [Node.decls_eq, Node.subnodes_eq_flatMap]
  cases h with
  | classDecl line name parent interfaces body hparent hinterfaces hbody =>
    have hp := flatMap_decls_of_declFree fun n hn => (hparent n hn).declFree
    have hi := flatMap_decls_of_declFree fun n hn => (hinterfaces n hn).declFree rfl fun _ h => h.declFree
    rw [Node.node?_of_child? rfl]
    simp [Node.children, Node.kind, Kind.isDeclaration, hp, hi]
  | callable kind flags line name params returnType body hkind hparams hreturn hbody =>
    have hp := flatMap_decls_of_declFree fun n hn => (hparams n hn).declFree rfl fun _ h => h.declFree
    have hr := flatMap_decls_of_declFree fun n hn => (hreturn n hn).declFree
    have hk : kind.isDeclaration = true := by rcases hkind with ⟨rfl, _⟩ | ⟨rfl, _⟩ <;> rfl
    rw [Node.node?_of_child? rfl]
    simp [Node.children, Node.kind, hk, hp, hr]
  | propGroup flags line type props hflags htype hprops =>
    have ht := flatMap_decls_of_declFree fun n hn => (htype n hn).declFree
    have hp := (hprops.declFree rfl fun _ h => h.declFree).decls_eq_nil
    have hs : (Node.mk .propGroup flags line
        [(.named "type", .ofNode? type), (.named "props", .node props), (.named "attributes", .absent)]).node?
          "stmts" = none := rfl
    rw [hs]
    simp [Node.children, Node.kind, Kind.isDeclaration, ht, hp]

end ClassOutline.Syntax

namespace ClassOutline.Cst

open Syntax Outline

/-! ### The region -/

def isDeclaration (n : Cst) : Bool :=
  n.isClassLike || ["property_declaration", "method_declaration", "function_definition"].contains n.type

/-- The body through which a declaration is entered. -/
def interior? (n : Cst) : Option Cst :=
  if n.isClassLike then n.classBody?
  else if n.type == "property_declaration" then none
  else n.field? "body"

private theorem mem_children_of_interior? {n b : Cst} (h : n.interior? = some b) : b ∈ n.children := by
  unfold interior? at h
  split at h
  · exact mem_children_of_classBody? h
  · split at h
    · simp at h
    · exact mem_children_of_field? h

mutual

/-- The declarations met in the named children of a node, in pre-order. -/
def region (n : Cst) : List Cst :=
  n.named.attach.flatMap fun c => met c.1
termination_by (n.size, 0)
decreasing_by
  have hc := size_le_of_mem c.2
  have hn := sizeAll_named_lt n
  exact Prod.Lex.left _ _ (Nat.lt_of_le_of_lt hc hn)

/-- The declarations met at a node. -/
def met (c : Cst) : List Cst :=
  if c.isDeclaration then c :: within c else region c
termination_by (c.size, 2)
decreasing_by
  · exact Prod.Lex.right _ (by omega)
  · exact Prod.Lex.right _ (by omega)

/-- The declarations met inside a declaration. -/
def within (c : Cst) : List Cst :=
  match _ : c.interior? with
  | some b => region b
  | none => []
termination_by (c.size, 1)
decreasing_by
  rename_i hb
  have hle := size_le_of_mem (mem_children_of_interior? hb)
  have hc := size_eq c
  exact Prod.Lex.left _ _ (by omega)

end

theorem region_eq (n : Cst) : region n = n.named.flatMap met := by
  rw [region, List.flatMap_subtype (fun _ _ => rfl), List.unattach_attach]

theorem within_eq (c : Cst) : within c = c.interior?.toList.flatMap region := by
  rw [within]
  split
  · rename_i b hb
    rw [hb, Option.toList_some, List.flatMap_singleton]
  · rename_i hb
    rw [hb]
    rfl

/-! ### Lowered declarations -/

/-- The syntax node of a declaration. -/
def declared (c : Cst) : Node :=
  (c.draft?.map (Draft.close fun b => some (lower .stmtList b))).getD default

/-- The forms of a node, each with its draft. -/
theorem draft?_cases (c : Cst) :
    (c.isClassLike = true ∧ c.draft? = some c.classDraft) ∨
    (c.isClassLike = false ∧ c.type = "property_declaration" ∧ c.draft? = some (.complete c.propertyGroup)) ∨
    (c.isClassLike = false ∧ c.type = "method_declaration" ∧
      c.draft? = some (c.callableDraft .method c.memberFlags)) ∨
    (c.isClassLike = false ∧ c.type = "function_definition" ∧ c.draft? = some (c.callableDraft .funcDecl 0)) ∨
    (c.isDeclaration = false ∧ c.draft? = none) := by
  unfold draft? isDeclaration
  cases hclass : c.isClassLike with
  | true => simp
  | false =>
    simp only [Bool.false_eq_true, if_false, Bool.false_or]
    split
    · rename_i htype
      simp [htype]
    · rename_i htype
      simp [htype]
    · rename_i htype
      simp [htype]
    · rename_i hprop hmethod hfunction
      right; right; right; right
      simpa using ⟨hprop, hmethod, hfunction⟩

theorem draft?_eq_none_of_isDeclaration {c : Cst} (h : c.isDeclaration = false) : c.draft? = none := by
  have hclass : c.isClassLike = false := (Bool.or_eq_false_iff.mp h).1
  rcases draft?_cases c with ⟨hc, _⟩ | ⟨_, ht, _⟩ | ⟨_, ht, _⟩ | ⟨_, ht, _⟩ | ⟨_, hd⟩
  · rw [hclass] at hc
    contradiction
  · simp [isDeclaration, ht] at h
  · simp [isDeclaration, ht] at h
  · simp [isDeclaration, ht] at h
  · exact hd

theorem exists_draft_of_isDeclaration {c : Cst} (h : c.isDeclaration = true) :
    ∃ d, c.draft? = some d ∧ d.body? = c.interior? := by
  rcases draft?_cases c with ⟨hc, hd⟩ | ⟨hc, ht, hd⟩ | ⟨hc, ht, hd⟩ | ⟨hc, ht, hd⟩ | ⟨hn, _⟩
  · exact ⟨_, hd, by rw [interior?, if_pos hc]; rfl⟩
  · exact ⟨_, hd, by simp [interior?, hc, ht, Draft.body?]⟩
  · exact ⟨_, hd, by simp [interior?, hc, ht, Draft.body?, callableDraft]⟩
  · exact ⟨_, hd, by simp [interior?, hc, ht, Draft.body?, callableDraft]⟩
  · rw [h] at hn
    contradiction

private theorem declared_of_draft {c : Cst} {d : Draft Cst} (hd : c.draft? = some d) :
    declared c = d.close fun b => some (lower .stmtList b) := by
  rw [declared, hd]
  rfl

theorem declared_classLike {c : Cst} (h : c.isClassLike = true) :
    declared c = c.classDraft.close fun b => some (lower .stmtList b) :=
  declared_of_draft (by rw [draft?, if_pos h])

theorem declared_property {c : Cst} (h : c.type = "property_declaration") : declared c = c.propertyGroup := by
  have hd : c.draft? = some (.complete c.propertyGroup) := by simp [draft?, isClassLike, h]
  exact declared_of_draft hd

theorem declared_method {c : Cst} (h : c.type = "method_declaration") :
    declared c = (c.callableDraft .method c.memberFlags).close fun b => some (lower .stmtList b) := by
  have hd : c.draft? = some (c.callableDraft .method c.memberFlags) := by simp [draft?, isClassLike, h]
  exact declared_of_draft hd

private theorem contribution_of_isDeclaration {c : Cst} (h : c.isDeclaration = true) :
    contribution c = [declared c] := by
  obtain ⟨d, hd, _⟩ := exists_draft_of_isDeclaration h
  rw [contribution_of_draft hd, declared_of_draft hd]

private theorem declNode_declared {c : Cst} (h : c.isDeclaration = true) : DeclNode (declared c) := by
  obtain ⟨d, hd, _⟩ := exists_draft_of_isDeclaration h
  rw [declared_of_draft hd]
  exact declNode_close hd fun b _ => b.declNode_of_mem_declarations

private theorem stmts_declared {c : Cst} (h : c.isDeclaration = true) :
    (declared c).node? "stmts" = c.interior?.map (lower .stmtList) := by
  rcases draft?_cases c with ⟨hc, hd⟩ | ⟨hc, ht, hd⟩ | ⟨hc, ht, hd⟩ | ⟨hc, ht, hd⟩ | ⟨hn, _⟩
  · rw [declared_of_draft hd, interior?, if_pos hc, Node.node?_of_child? rfl, Option.map_eq_bind]
    rfl
  · rw [declared_of_draft hd]
    simp only [interior?, hc, ht]
    rfl
  · rw [declared_of_draft hd, Node.node?_of_child? rfl]
    simp only [interior?, hc, ht, Option.map_eq_bind]
    rfl
  · rw [declared_of_draft hd, Node.node?_of_child? rfl]
    simp only [interior?, hc, ht, Option.map_eq_bind]
    rfl
  · rw [h] at hn
    contradiction

theorem decls_lower (kind : Kind) (hkind : kind.isDeclaration = false) (b : Cst) :
    (lower kind b).decls = (declarations b).flatMap Node.decls := by
  rw [Node.decls_eq, lower, Node.subnodes_numbered, Node.kind, hkind]
  rfl

/-- The declarations that are found in a node, with all that are nested in them, are those of its region. -/
theorem decls_declarations (n : Cst) : (declarations n).flatMap Node.decls = (region n).map declared := by
  induction n using declarations_induction with
  | step n hthrough hbodies =>
    rw [declarations_eq, region_eq, List.flatMap_assoc, List.map_flatMap]
    apply List.flatMap_congr
    intro c hc
    rw [met]
    split
    · rename_i hdecl
      obtain ⟨d, hd, hbody⟩ := exists_draft_of_isDeclaration hdecl
      rw [contribution_of_isDeclaration hdecl, List.flatMap_singleton, (declNode_declared hdecl).decls_eq,
        stmts_declared hdecl, within_eq, List.map_cons]
      cases he : c.interior? with
      | none => rfl
      | some b =>
        have hb := hbodies c hc d b hd (hbody.trans he)
        rw [Option.map_some, Option.toList_some, Option.toList_some, List.flatMap_singleton,
          List.flatMap_singleton, decls_lower .stmtList rfl, hb]
    · rename_i hdecl
      have hd := draft?_eq_none_of_isDeclaration (Bool.eq_false_iff.mpr hdecl)
      rw [contribution_of_none hd, hthrough c hc hd]

/-! ### Outlines of concrete nodes -/

def modifiers (c : Cst) : Modifiers :=
  .ofFlags c.memberFlags

/-- The parameters right below the `parameters` field. -/
def parameterNodes (m : Cst) : List Cst :=
  (m.field? "parameters").toList.flatMap fun p => p.named.filter fun c => parameterTypes.contains c.type

/-- What an outline says of a method. -/
def toMethodEntry (m : Cst) : MethodEntry where
  name := orUnnamed "unknown" ((m.field? "name").map text)
  visibility := m.modifiers.visibility
  parameters := m.parameterNodes.length
  returnType := match m.returnTypePart? with
    | some t => t.typeTree.typeText 0
    | none => "untyped"

/-- The variable of a property element, by its field or by its type. -/
def propertyVariable? (e : Cst) : Option Cst :=
  (e.field? "name").orElse fun _ => e.namedOf? ["variable_name"]

/-- What an outline says of a property declaration: an entry for each element with a variable. -/
def toPropertyEntries (p : Cst) : List PropertyEntry :=
  ((p.named.filter fun c => c.type == "property_element").filterMap propertyVariable?).map fun v =>
    ⟨v.variableName, p.modifiers.visibility⟩

/-- The name that a node of a clause stands for. -/
def clauseName (c : Cst) : String :=
  String.ofList (dropLeading '\\' (if c.type == "named_type" then c.named.head?.getD c else c).chars)

/-- What an outline says of a class-like node. -/
def toSummary (filter : Filter) (c : Cst) : ClassSummary where
  name := orUnnamed "UnknownClass" ((c.field? "name").map text)
  interfaces := c.interfaceClause?.toList.flatMap fun clause =>
    (clause.named.filter fun n => nameTypes.contains n.type).map clauseName
  properties := ((within c).filter fun p =>
    p.type == "property_declaration" && filter.allows p.modifiers).flatMap toPropertyEntries
  methods := ((within c).filter fun m =>
    m.type == "method_declaration" && filter.allows m.modifiers).map toMethodEntry

theorem kind_declared (c : Cst) :
    ((declared c).kind = .classDecl ↔ c.isClassLike = true) ∧
    ((declared c).kind = .propGroup ↔ c.type = "property_declaration") ∧
    ((declared c).kind = .method ↔ c.type = "method_declaration") := by
  rcases draft?_cases c with ⟨hc, hd⟩ | ⟨hc, ht, hd⟩ | ⟨hc, ht, hd⟩ | ⟨hc, ht, hd⟩ | ⟨hn, hd⟩
  · have hk : (declared c).kind = .classDecl := by
      rw [declared_of_draft hd]
      rfl
    have hprop : c.type ≠ "property_declaration" := by
      intro ht
      simp [isClassLike, ht] at hc
    have hmethod : c.type ≠ "method_declaration" := by
      intro ht
      simp [isClassLike, ht] at hc
    simp [hk, hc, hprop, hmethod]
  · have hk : (declared c).kind = .propGroup := by
      rw [declared_of_draft hd]
      rfl
    simp [hk, hc, ht]
  · have hk : (declared c).kind = .method := by
      rw [declared_of_draft hd]
      rfl
    simp [hk, hc, ht]
  · have hk : (declared c).kind = .funcDecl := by
      rw [declared_of_draft hd]
      rfl
    simp [hk, hc, ht]
  · have hk : (declared c).kind = .other := by
      rw [declared, hd]
      rfl
    simp [isDeclaration] at hn
    simp [hk, hn]

private theorem className_declared {c : Cst} (h : c.isClassLike = true) :
    className (declared c) = orUnnamed "UnknownClass" ((c.field? "name").map text) := by
  rw [className, declared_classLike h, Node.text?_of_child? rfl]

theorem interfaces_classDraft (c : Cst) (body : Cst → Option Node) :
    interfaces (c.classDraft.close body) = c.interfaceClause?.toList.flatMap fun clause =>
      (clause.named.filter fun n => nameTypes.contains n.type).map clauseName := by
  rw [interfaces, classDraft, Draft.close, Node.node?_of_child? rfl]
  cases c.interfaceClause? with
  | none => rfl
  | some clause =>
    have hnames : clause.nameList.subnodes = clause.clauseNames := by
      rw [nameList, Node.list_map_node, Node.subnodes_numbered]
    rw [Option.map_some, Option.toList_some, List.flatMap_singleton]
    simp only [hnames, clauseNames, List.filterMap_map]
    change List.filterMap (some ∘ clauseName) _ = _
    rw [List.filterMap_eq_map]

private theorem interfaces_declared {c : Cst} (h : c.isClassLike = true) :
    interfaces (declared c) = c.interfaceClause?.toList.flatMap fun clause =>
      (clause.named.filter fun n => nameTypes.contains n.type).map clauseName := by
  rw [declared_classLike h, interfaces_classDraft]

private theorem text?_propertyElement (e : Cst) :
    e.propertyElement.text? "name" = e.propertyVariable?.map variableName :=
  Node.text?_of_child? rfl

private theorem groupEntries_declared {c : Cst} (h : c.type = "property_declaration") :
    groupEntries (declared c) = c.toPropertyEntries := by
  have hprops : c.propertyGroup.node? "props" = some (.list .propDecl
      ((c.named.filter fun e => e.type == "property_element").map fun e => .node e.propertyElement) c.line) := rfl
  have hmap (es : List Cst) : (es.map fun e => Child.node e.propertyElement) =
      (es.map propertyElement).map .node := by
    rw [List.map_map]
    rfl
  rw [groupEntries, declared_property h, hprops, hmap, Node.list_map_node]
  simp only [Node.subnodes_numbered, List.filterMap_map, Function.comp_def, text?_propertyElement]
  rw [toPropertyEntries, ← List.map_filterMap, List.map_map]
  rfl

private theorem length_indexed (i : Nat) (cs : List Child) : (Node.indexed i cs).length = cs.length := by
  induction cs generalizing i with
  | nil => rfl
  | cons c cs ih => rw [Node.indexed, List.length_cons, List.length_cons, ih]

private theorem methodEntry_declared {c : Cst} (h : c.type = "method_declaration") :
    methodEntry (declared c) = c.toMethodEntry := by
  have hmethod := declared_method h
  have hname : (declared c).text? "name" = (c.field? "name").map text := by
    rw [hmethod, Node.text?_of_child? rfl]
  have hparams : parameterCount (declared c) = c.parameterNodes.length := by
    rw [parameterCount, parameterNodes, hmethod, Node.node?_of_child? rfl]
    cases c.field? "parameters" with
    | none => rfl
    | some p =>
      rw [Option.map_some, Option.toList_some, List.flatMap_singleton]
      simp only [parameterList, Node.list, Node.children, length_indexed, List.length_map]
  have hreturn : returnType (declared c) = c.toMethodEntry.returnType := by
    have hchild : (declared c).child? (.named "returnType") = some (typeTree? c.returnTypePart?) := by
      rw [hmethod]
      rfl
    rw [returnType, hchild, toMethodEntry]
    cases c.returnTypePart? with
    | none => rfl
    | some t =>
      obtain ⟨n, hn, _⟩ := typeNode_typeTree t
      simp only [typeTree?, hn]
  rw [methodEntry, hname, hparams, hreturn, hmethod]
  rfl

/-! ### From the tree to the region -/

private theorem flatMap_preorder_eq_decls {β : Type} (f : Node → List β)
    (hf : ∀ n : Node, n.kind.isDeclaration = false → f n = []) (t : Node) :
    t.preorder.flatMap f = t.decls.flatMap f := by
  rw [Node.decls]
  induction t.preorder with
  | nil => rfl
  | cons n ns ih =>
    rw [List.flatMap_cons, List.filter_cons, ih]
    cases hk : n.kind.isDeclaration with
    | true => rw [if_pos rfl, List.flatMap_cons]
    | false => rw [hf n hk, if_neg Bool.false_ne_true, List.nil_append]

private theorem firstClass?_eq_find?_decls (t : Node) :
    (Child.node t).firstClass? = t.decls.find? fun n => n.kind = .classDecl := by
  rw [Child.firstClass?, Child.nodes_node, Node.decls, List.find?_filter]
  congr 1
  funext n
  cases n.kind <;> rfl

private theorem decls_declared {c : Cst} (h : c.isDeclaration = true) :
    (declared c).decls = declared c :: (within c).map declared := by
  rw [(declNode_declared h).decls_eq, stmts_declared h, within_eq]
  cases c.interior? with
  | none => rfl
  | some b =>
    rw [Option.map_some, Option.toList_some, Option.toList_some, List.flatMap_singleton,
      List.flatMap_singleton, decls_lower .stmtList rfl, decls_declarations]

private theorem ownProperties_declared (filter : Filter) (c : Cst) :
    ownProperties filter (declared c) =
      if c.type == "property_declaration" && filter.allows c.modifiers then c.toPropertyEntries else [] := by
  by_cases hprop : c.type = "property_declaration"
  · have hmod : (declared c).modifiers = c.modifiers := by
      rw [declared_property hprop]
      rfl
    simp [ownProperties, (kind_declared c).2.1.mpr hprop, hmod, hprop, groupEntries_declared hprop]
  · have hk : ¬ (declared c).kind = .propGroup := fun h => hprop ((kind_declared c).2.1.mp h)
    simp [ownProperties, hk, hprop]

private theorem ownMethods_declared (filter : Filter) (c : Cst) :
    ownMethods filter (declared c) =
      if c.type == "method_declaration" && filter.allows c.modifiers then [c.toMethodEntry] else [] := by
  by_cases hmethod : c.type = "method_declaration"
  · have hmod : (declared c).modifiers = c.modifiers := by
      rw [declared_method hmethod]
      rfl
    simp [ownMethods, (kind_declared c).2.2.mpr hmethod, hmod, hmethod, methodEntry_declared hmethod]
  · have hk : ¬ (declared c).kind = .method := fun h => hmethod ((kind_declared c).2.2.mp h)
    simp [ownMethods, hk, hmethod]

/-- The members that the walk below a class collects come from the region of the class. -/
theorem flatMap_nodes_declared {β : Type} {c : Cst} (h : c.isClassLike = true) (f : Node → List β)
    (hf : ∀ n : Node, n.kind = .classDecl ∨ n.kind.isDeclaration = false → f n = []) :
    (declared c).nodes.flatMap f = (within c).flatMap fun m => f (declared m) := by
  have hdecl : c.isDeclaration = true := by rw [isDeclaration, h, Bool.true_or]
  have hself : f (declared c) = [] := hf _ (.inl ((kind_declared c).1.mpr h))
  rw [Node.nodes_eq_preorder, flatMap_preorder_eq_decls f fun n hn => hf n (.inr hn), decls_declared hdecl,
    List.flatMap_cons, hself, List.nil_append, List.flatMap_map]

private theorem flatMap_ite_eq_filter_flatMap {α β : Type} (p : α → Bool) (f : α → List β) (xs : List α) :
    (xs.flatMap fun x => if p x then f x else []) = (xs.filter p).flatMap f := by
  induction xs with
  | nil => rfl
  | cons x xs ih =>
    rw [List.flatMap_cons, List.filter_cons, ih]
    split <;> rfl

theorem summarize_declared (filter : Filter) {c : Cst} (h : c.isClassLike = true) :
    summarize filter (declared c) = c.toSummary filter := by
  have hproperties := flatMap_nodes_declared h (ownProperties filter) (by
    intro n hn
    rw [ownProperties, if_neg]
    rintro ⟨hk, _⟩
    rw [hk] at hn
    simp [Kind.isDeclaration] at hn)
  have hmethods := flatMap_nodes_declared h (ownMethods filter) (by
    intro n hn
    rw [ownMethods, if_neg]
    rintro ⟨hk, _⟩
    rw [hk] at hn
    simp [Kind.isDeclaration] at hn)
  simp only [ownProperties_declared, flatMap_ite_eq_filter_flatMap] at hproperties
  simp only [ownMethods_declared, flatMap_ite_eq_filter_flatMap] at hmethods
  rw [summarize, hproperties, hmethods, className_declared h, interfaces_declared h, toSummary]
  rw [← List.map_eq_flatMap]

theorem firstClass?_lower (root : Cst) :
    (Child.node (lower .stmtList root)).firstClass? = ((region root).find? isClassLike).map declared := by
  have hclass : ((fun n : Node => decide (n.kind = .classDecl)) ∘ declared) = isClassLike := by
    funext c
    exact Bool.eq_iff_iff.mpr (by simpa using (kind_declared c).1)
  rw [firstClass?_eq_find?_decls, decls_lower .stmtList rfl, decls_declarations, List.find?_map, hclass]

/-- The outline of a tree is that of the first class in the searched region of its root, if there is one. -/
theorem outline_eq_searched_region (root : Cst) (h : root.head.hasError = false) (filter : Filter) :
    ∃ t, root.tree = .ok t ∧
      (Outline.ofTree filter (.node t) = none ↔ ∀ c ∈ region root, c.isClassLike = false) ∧
      ∀ c, (region root).find? isClassLike = some c →
        Outline.ofTree filter (.node t) = some (c.toSummary filter) := by
  refine ⟨_, tree_of_no_error h, ?_, ?_⟩
  · rw [Outline.ofTree, firstClass?_lower]
    simp [List.find?_eq_none]
  · intro c hc
    have hclass : c.isClassLike = true := List.find?_some hc
    rw [Outline.ofTree, firstClass?_lower, hc, Option.map_some, Option.map_some, summarize_declared filter hclass]

theorem within_outerClass :
    within outerClass = [outerMethod, innerClass, construct "property_declaration" none [],
      construct "method_declaration" none [construct "compound_statement" (some "body") []],
      construct "method_declaration" none []] := by
  simp [outerClass, outerMethod, innerClass, construct, region_eq, met, within_eq, isDeclaration, isClassLike,
    interior?, classBody?, named, field?, namedOf?, type, head, children]

theorem region_nestedClasses : region nestedClasses = outerClass :: within outerClass := by
  have hnamed : nestedClasses.named = [outerClass] := rfl
  rw [region_eq, hnamed, List.flatMap_singleton, met, if_pos (by decide)]

theorem nestedClasses_outline :
    nestedClasses.head.hasError = false ∧ ∃ t, nestedClasses.tree = .ok t ∧
      Outline.ofTree .publicOnly (.node t) =
        some ⟨"UnknownClass", [], [], List.replicate 3 ⟨"unknown", .isPublic, 0, "untyped"⟩⟩ := by
  obtain ⟨t, ht, _, houtline⟩ := outline_eq_searched_region nestedClasses rfl .publicOnly
  have hfirst : (region nestedClasses).find? isClassLike = some outerClass := by
    rw [region_nestedClasses, List.find?_cons_of_pos (by decide)]
  refine ⟨rfl, t, ht, (houtline outerClass hfirst).trans ?_⟩
  rw [toSummary, within_outerClass]
  decide

end ClassOutline.Cst
