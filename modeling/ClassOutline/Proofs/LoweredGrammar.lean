import ClassOutline.Proofs.DeferredLowering
import Mathlib.Data.Nat.Bitwise

/-!
# The grammar of lowered trees

Concrete trees may have any shape, but what they are lowered to follows a grammar: a body is a numbered list of
declarations, a declaration has its slots in a fixed order and nothing but bodies holds declarations. Every kind of
declaration, every part that is looked for in more than one place and every part that may be missing stays inside.
-/
namespace ClassOutline.Syntax

/-! ### The grammar -/

/-- The kinds of declarations. -/
def Kind.isDeclaration : Kind → Bool
  | classDecl | propGroup | method | funcDecl => true
  | _ => false

/-- At least one of the bits of the three visibilities is set. -/
def HasVisibility (flags : Int) : Prop :=
  bitAt flags Modifier.isPublic.place ∨ bitAt flags Modifier.isProtected.place ∨ bitAt flags Modifier.isPrivate.place

inductive NameNode : Node → Prop where
  | mk (name : String) (line : Int) : NameNode (.mk .name 0 line [(.named "name", .text name)])

/-- Lists of nodes of one form, in the slots 0, 1, … -/
inductive ListNode (kind : Kind) (Item : Node → Prop) : Node → Prop where
  | mk (items : List Node) (line : Int) (hitems : ∀ n ∈ items, Item n) :
      ListNode kind Item (.mk kind 0 line (Node.numbered items))

/-- Type expressions. A union or an intersection never has exactly one member. -/
inductive TypeNode : Node → Prop where
  | keyword (t : TypeKeyword) (line : Int) : TypeNode (.mk .type t.flag line [])
  | name (n : Node) (hn : NameNode n) : TypeNode n
  | nullable (inner : Option Node) (line : Int) (hinner : ∀ n ∈ inner, TypeNode n) :
      TypeNode (.mk .nullableType 0 line [(.named "type", .ofNode? inner)])
  | joined (kind : Kind) (members : List Node) (line : Int)
      (hkind : kind = .unionType ∨ kind = .intersectionType) (hlength : members.length ≠ 1)
      (hmembers : ∀ n ∈ members, TypeNode n) :
      TypeNode (.mk kind 0 line (Node.numbered members))
  /-- A construct that is no type. -/
  | other (line : Int) : TypeNode (.mk .other 0 line [])

inductive ParamNode : Node → Prop where
  | mk (flags : Int) (line : Int) (type : Option Node) (name : Option String)
      (htype : ∀ n ∈ type, TypeNode n) :
      ParamNode (.mk .param flags line
        [(.named "type", .ofNode? type), (.named "name", .ofText? name), (.named "default", .absent)])

inductive PropElemNode : Node → Prop where
  | mk (line : Int) (name : Option String) :
      PropElemNode (.mk .propElem 0 line
        [(.named "name", .ofText? name), (.named "default", .absent), (.named "docComment", .absent)])

/-- Declarations. A body is a list of declarations again. -/
inductive DeclNode : Node → Prop where
  | classDecl (line : Int) (name : Option String) (parent interfaces : Option Node)
      (body : Option (Int × List Node)) (hparent : ∀ n ∈ parent, NameNode n)
      (hinterfaces : ∀ n ∈ interfaces, ListNode .nameList NameNode n)
      (hbody : ∀ b ∈ body, ∀ n ∈ b.2, DeclNode n) :
      DeclNode (.mk .classDecl 0 line
        [(.named "name", .ofText? name), (.named "docComment", .absent), (.named "extends", .ofNode? parent),
          (.named "implements", .ofNode? interfaces),
          (.named "stmts", .ofNode? (body.map fun b => .mk .stmtList 0 b.1 (Node.numbered b.2)))])
  | callable (kind : Kind) (flags : Int) (line : Int) (name : Option String) (params returnType : Option Node)
      (body : Option (Int × List Node))
      (hkind : kind = .method ∧ HasVisibility flags ∨ kind = .funcDecl ∧ flags = 0)
      (hparams : ∀ n ∈ params, ListNode .paramList ParamNode n) (hreturn : ∀ n ∈ returnType, TypeNode n)
      (hbody : ∀ b ∈ body, ∀ n ∈ b.2, DeclNode n) :
      DeclNode (.mk kind flags line
        [(.named "name", .ofText? name), (.named "docComment", .absent), (.named "params", .ofNode? params),
          (.named "stmts", .ofNode? (body.map fun b => .mk .stmtList 0 b.1 (Node.numbered b.2))),
          (.named "returnType", .ofNode? returnType), (.named "attributes", .absent)])
  | propGroup (flags : Int) (line : Int) (type : Option Node) (props : Node) (hflags : HasVisibility flags)
      (htype : ∀ n ∈ type, TypeNode n) (hprops : ListNode .propDecl PropElemNode props) :
      DeclNode (.mk .propGroup flags line
        [(.named "type", .ofNode? type), (.named "props", .node props), (.named "attributes", .absent)])

/-- Bodies and whole trees. -/
abbrev BodyNode : Node → Prop :=
  ListNode .stmtList DeclNode

/-! ### Where declarations occur -/

/-- No node of the tree is a declaration. -/
def DeclFree (n : Node) : Prop :=
  ∀ m ∈ n.preorder, m.kind.isDeclaration = false

/-- Declarations occur in the tree only as members of bodies. -/
def DeclsInBodies (n : Node) : Prop :=
  ∀ m ∈ n.preorder, ∀ d ∈ m.subnodes, d.kind.isDeclaration = true → m.kind = .stmtList

private theorem DeclFree.of_subnodes {n : Node} (hkind : n.kind.isDeclaration = false)
    (h : ∀ d ∈ n.subnodes, DeclFree d) : DeclFree n := by
  intro m hm
  rcases Node.mem_preorder_iff.mp hm with rfl | ⟨d, hd, hm⟩
  · exact hkind
  · exact h d hd m hm

theorem DeclFree.kind {n : Node} (h : DeclFree n) : n.kind.isDeclaration = false :=
  h n (Node.mem_preorder_iff.mpr (.inl rfl))

private theorem DeclFree.declsInBodies {n : Node} (h : DeclFree n) : DeclsInBodies n := by
  intro m hm d hd hdecl
  have hdm : d ∈ m.preorder := Node.mem_preorder_iff.mpr (.inr ⟨d, hd, Node.mem_preorder_iff.mpr (.inl rfl)⟩)
  rw [h d (Node.mem_preorder_trans hdm hm)] at hdecl
  contradiction

private theorem DeclsInBodies.of_subnodes {n : Node}
    (h : ∀ d ∈ n.subnodes, DeclsInBodies d ∧ (d.kind.isDeclaration = true → n.kind = .stmtList)) :
    DeclsInBodies n := by
  intro m hm
  rcases Node.mem_preorder_iff.mp hm with rfl | ⟨d, hd, hm⟩
  · exact fun d hd => (h d hd).2
  · exact (h d hd).1 m hm

theorem NameNode.declFree {n : Node} (h : NameNode n) : DeclFree n := by
  cases h with
  | mk name line => exact .of_subnodes rfl (by simp [Node.mem_subnodes_iff, Node.children])

theorem ListNode.declFree {kind : Kind} {Item : Node → Prop} {n : Node} (h : ListNode kind Item n)
    (hkind : kind.isDeclaration = false) (hitem : ∀ m, Item m → DeclFree m) : DeclFree n := by
  cases h with
  | mk items line hitems =>
    apply DeclFree.of_subnodes
    · exact hkind
    · intro d hd
      rw [Node.subnodes_numbered] at hd
      exact hitem d (hitems d hd)

theorem TypeNode.declFree {n : Node} (h : TypeNode n) : DeclFree n := by
  induction h with
  | keyword t line => exact .of_subnodes rfl (by simp [Node.mem_subnodes_iff, Node.children])
  | name n hn => exact hn.declFree
  | nullable inner line hinner ih =>
    apply DeclFree.of_subnodes rfl
    intro d hd
    exact ih d (by simpa [Node.mem_subnodes_iff, Node.children] using hd)
  | joined kind members line hkind hlength hmembers ih =>
    apply DeclFree.of_subnodes
    · rcases hkind with rfl | rfl <;> rfl
    · intro d hd
      rw [Node.subnodes_numbered] at hd
      exact ih d hd
  | other line => exact .of_subnodes rfl (by simp [Node.mem_subnodes_iff, Node.children])

theorem ParamNode.declFree {n : Node} (h : ParamNode n) : DeclFree n := by
  cases h with
  | mk flags line type name htype =>
    apply DeclFree.of_subnodes rfl
    intro d hd
    exact (htype d (by simpa [Node.mem_subnodes_iff, Node.children] using hd)).declFree

theorem PropElemNode.declFree {n : Node} (h : PropElemNode n) : DeclFree n := by
  cases h with
  | mk line name => exact .of_subnodes rfl (by simp [Node.mem_subnodes_iff, Node.children])

/-- A part without declarations is no reason for a declaration to stand outside of a body. -/
theorem DeclFree.declsIn {n d : Node} (h : DeclFree d) :
    DeclsInBodies d ∧ (d.kind.isDeclaration = true → n.kind = .stmtList) := by
  refine ⟨h.declsInBodies, fun hdecl => ?_⟩
  rw [h.kind] at hdecl
  contradiction

private theorem declsInBodies_numbered (line : Int) (nodes : List Node) (h : ∀ n ∈ nodes, DeclsInBodies n) :
    DeclsInBodies (.mk .stmtList 0 line (Node.numbered nodes)) := by
  apply DeclsInBodies.of_subnodes
  intro d hd
  rw [Node.subnodes_numbered] at hd
  exact ⟨h d hd, fun _ => rfl⟩

private theorem DeclNode.declsInBodies {n : Node} (h : DeclNode n) : DeclsInBodies n := by
  have hbodyIn {n d : Node} {body : Option (Int × List Node)}
      (ih : ∀ b ∈ body, ∀ m ∈ b.2, DeclsInBodies m)
      (hd : (body.map fun b => Node.mk .stmtList 0 b.1 (Node.numbered b.2)) = some d) :
      DeclsInBodies d ∧ (d.kind.isDeclaration = true → n.kind = .stmtList) := by
    obtain ⟨b, hb, rfl⟩ := Option.map_eq_some_iff.mp hd
    exact ⟨declsInBodies_numbered _ _ (ih b hb), by simp [Node.kind, Kind.isDeclaration]⟩
  induction h with
  | classDecl line name parent interfaces body hparent hinterfaces hbody ih =>
    apply DeclsInBodies.of_subnodes
    intro d hd
    have hd : parent = some d ∨ interfaces = some d ∨
        (body.map fun b => Node.mk .stmtList 0 b.1 (Node.numbered b.2)) = some d := by
      simpa [Node.mem_subnodes_iff, Node.children, -Option.map_eq_some_iff] using hd
    rcases hd with hd | hd | hd
    · exact (hparent d hd).declFree.declsIn
    · exact ((hinterfaces d hd).declFree rfl fun _ h => h.declFree).declsIn
    · exact hbodyIn ih hd
  | callable kind flags line name params returnType body hkind hparams hreturn hbody ih =>
    apply DeclsInBodies.of_subnodes
    intro d hd
    have hd : params = some d ∨
        (body.map fun b => Node.mk .stmtList 0 b.1 (Node.numbered b.2)) = some d ∨ returnType = some d := by
      simpa [Node.mem_subnodes_iff, Node.children, -Option.map_eq_some_iff] using hd
    rcases hd with hd | hd | hd
    · exact ((hparams d hd).declFree rfl fun _ h => h.declFree).declsIn
    · exact hbodyIn ih hd
    · exact (hreturn d hd).declFree.declsIn
  | propGroup flags line type props hflags htype hprops =>
    apply DeclsInBodies.of_subnodes
    intro d hd
    have hd : type = some d ∨ props = d := by
      simpa [Node.mem_subnodes_iff, Node.children] using hd
    rcases hd with hd | rfl
    · exact (htype d hd).declFree.declsIn
    · exact (hprops.declFree rfl fun _ h => h.declFree).declsIn

private theorem declsInBodies_of_bodyNode {n : Node} (h : BodyNode n) : DeclsInBodies n := by
  cases h with
  | mk items line hitems => exact declsInBodies_numbered line items fun n hn => (hitems n hn).declsInBodies

end ClassOutline.Syntax

namespace ClassOutline.Cst

open Syntax

/-! ### Modifiers -/

theorem bitAt_natCast (m place : Nat) : bitAt m place = m.testBit place := by
  have hshift : (m : Int) >>> place = ((m / 2 ^ place : Nat) : Int) := by
    rw [Int.shiftRight_eq_div_pow]
    norm_cast
  rw [bitAt, hshift, Nat.testBit_eq_decide_div_mod_eq, beq_eq_decide]
  exact decide_eq_decide.mpr (by omega)

theorem hasVisibility_memberFlags (n : Cst) : HasVisibility n.memberFlags := by
  have hmask : visibilityMask = 2 ^ 3 - 1 := rfl
  unfold HasVisibility memberFlags
  dsimp only
  generalize modifierMask n.children = m
  split
  · left
    rw [bitAt_natCast, Nat.testBit_or]
    simp [Modifier.mask, Modifier.place]
  · rename_i hm
    rw [hmask, Nat.and_two_pow_sub_one_eq_mod] at hm
    simp only [bitAt_natCast, Modifier.place, Nat.testBit_eq_decide_div_mod_eq, decide_eq_true_eq]
    omega

/-! ### Names and types -/

private theorem nameNode_nameNode (n : Cst) : NameNode n.nameNode :=
  .mk _ _

private theorem typeNode_simpleType (n : Cst) : TypeNode n.simpleType := by
  unfold simpleType
  split
  · exact .keyword _ _
  · exact .name _ n.nameNode_nameNode

private theorem typeNode_typeList {kind : Kind} (hkind : kind = .unionType ∨ kind = .intersectionType) (line : Nat)
    (members : List Node) (h : ∀ n ∈ members, TypeNode n) :
    ∃ n, typeList kind line (members.map .node) = .node n ∧ TypeNode n := by
  match members with
  | [] => exact ⟨_, rfl, .joined kind [] line hkind (by simp) (by simp)⟩
  | [m] => exact ⟨m, rfl, h m List.mem_cons_self⟩
  | m :: m' :: rest =>
    refine ⟨_, rfl, ?_⟩
    change TypeNode (Node.list kind ((m :: m' :: rest).map .node) line)
    rw [Node.list_map_node]
    exact .joined kind _ line hkind (by simp) h

mutual

/-- Whatever stands where a type is expected is lowered to a type expression. -/
theorem typeNode_typeTree : ∀ t : Cst, ∃ n, t.typeTree = .node n ∧ TypeNode n
  | .node head children => by
    obtain ⟨members, hmembers, htypes⟩ := typeNode_memberTypes children
    obtain ⟨inner, hinner, htype⟩ := typeNode_firstType children
    unfold typeTree
    dsimp only
    rw [hmembers, hinner]
    split
    · exact ⟨_, rfl, .nullable inner _ htype⟩
    · exact typeNode_typeList (.inl rfl) _ members htypes
    · exact typeNode_typeList (.inl rfl) _ members htypes
    · exact typeNode_typeList (.inl rfl) _ members htypes
    · exact typeNode_typeList (.inr rfl) _ members htypes
    · exact ⟨_, rfl, typeNode_simpleType _⟩
    · exact ⟨_, rfl, typeNode_simpleType _⟩
    · exact ⟨_, rfl, typeNode_simpleType _⟩
    · exact ⟨_, rfl, typeNode_simpleType _⟩
    · exact ⟨_, rfl, typeNode_simpleType _⟩
    · exact ⟨_, rfl, .other _⟩

private theorem typeNode_firstType : ∀ cs : List Cst, ∃ o, firstType cs = .ofNode? o ∧ ∀ n ∈ o, TypeNode n
  | [] => ⟨none, rfl, by simp⟩
  | c :: rest => by
    unfold firstType
    split
    · obtain ⟨n, hn, htype⟩ := typeNode_typeTree c
      exact ⟨some n, hn, by simpa using htype⟩
    · exact typeNode_firstType rest

private theorem typeNode_memberTypes : ∀ cs : List Cst, ∃ ns : List Node,
    memberTypes cs = ns.map .node ∧ ∀ n ∈ ns, TypeNode n
  | [] => ⟨[], rfl, by simp⟩
  | c :: rest => by
    obtain ⟨ns, hns, htypes⟩ := typeNode_memberTypes rest
    unfold memberTypes
    split
    · obtain ⟨n, hn, htype⟩ := typeNode_typeTree c
      refine ⟨n :: ns, by rw [hn, hns, List.map_cons], ?_⟩
      intro m hm
      rcases List.mem_cons.mp hm with rfl | hm
      · exact htype
      · exact htypes m hm
    · exact ⟨ns, hns, htypes⟩

end

private theorem typeNode_typeTree? (part : Option Cst) : ∃ o, typeTree? part = .ofNode? o ∧ ∀ n ∈ o, TypeNode n := by
  cases part with
  | none => exact ⟨none, rfl, by simp⟩
  | some t =>
    obtain ⟨n, hn, htype⟩ := typeNode_typeTree t
    exact ⟨some n, hn, by simpa using htype⟩

/-! ### Declarations -/

/-- A list node of the nodes made from some concrete nodes. -/
theorem listNode_list_map {Item : Node → Prop} (kind : Kind) (f : Cst → Node) (cs : List Cst) (line : Int)
    (h : ∀ c, Item (f c)) : ListNode kind Item (.list kind (cs.map fun c => .node (f c)) line) := by
  have hmap : (cs.map fun c => Child.node (f c)) = (cs.map f).map .node := by
    rw [List.map_map]
    rfl
  rw [hmap, Node.list_map_node]
  refine .mk _ _ ?_
  intro n hn
  obtain ⟨c, _, rfl⟩ := List.mem_map.mp hn
  exact h c

private theorem listNode_nameList (clause : Cst) : ListNode .nameList NameNode clause.nameList := by
  have h := listNode_list_map .nameList nameNode (clause.named.filter fun c => nameTypes.contains c.type)
    clause.line nameNode_nameNode
  rwa [nameList, clauseNames, List.map_map]

private theorem nameNode_of_parentName? {n : Cst} {parent : Node} (h : n.parentName? = some parent) :
    NameNode parent := by
  unfold parentName? at h
  split at h
  · simp at h
  · obtain ⟨clause, _, hhead⟩ := Option.bind_eq_some_iff.mp h
    obtain ⟨c, _, rfl⟩ := List.mem_map.mp (List.mem_of_head? hhead)
    exact c.nameNode_nameNode

private theorem paramNode_parameter (n : Cst) : ParamNode n.parameter := by
  obtain ⟨type, htype, hnode⟩ := typeNode_typeTree? n.typePart?
  rw [parameter, htype]
  exact .mk _ _ type _ hnode

private theorem listNode_parameterList (n : Cst) : ListNode .paramList ParamNode n.parameterList :=
  listNode_list_map .paramList parameter _ _ paramNode_parameter

private theorem declNode_propertyGroup (n : Cst) : DeclNode n.propertyGroup := by
  obtain ⟨type, htype, hnode⟩ := typeNode_typeTree? n.typePart?
  rw [propertyGroup, htype]
  exact .propGroup _ _ type _ n.hasVisibility_memberFlags hnode
    (listNode_list_map .propDecl propertyElement _ _ fun c => .mk _ _)

private theorem bind_lower (body : Option Cst) :
    (body.bind fun b => some (lower .stmtList b)) =
      (body.map fun b => ((b.line : Int), declarations b)).map
        fun b => .mk .stmtList 0 b.1 (Node.numbered b.2) := by
  cases body with
  | none => rfl
  | some b => rw [Option.bind_some, lower, Option.map_some, Option.map_some]

/-- A declaration whose body is a list of declarations is one itself, whichever of its parts are missing. -/
theorem declNode_close {c : Cst} {d : Draft Cst} (hd : c.draft? = some d)
    (hbody : ∀ b, d.body? = some b → ∀ n ∈ declarations b, DeclNode n) :
    DeclNode (d.close fun b => some (lower .stmtList b)) := by
  have hnested (body : Option Cst) (h : d.body? = body) :
      ∀ b ∈ body.map fun b => ((b.line : Int), declarations b), ∀ n ∈ b.2, DeclNode n := by
    intro b hb
    obtain ⟨cst, hcst, rfl⟩ := Option.mem_map.mp hb
    exact hbody cst (h.trans hcst)
  have hcallable (kind : Kind) (flags : Int)
      (hkind : kind = .method ∧ HasVisibility flags ∨ kind = .funcDecl ∧ flags = 0)
      (h : d = c.callableDraft kind flags) : DeclNode (d.close fun b => some (lower .stmtList b)) := by
    obtain ⟨type, htype, hnode⟩ := typeNode_typeTree? c.returnTypePart?
    have hparams : ∀ n ∈ (c.field? "parameters").map parameterList, ListNode .paramList ParamNode n := by
      intro n hn
      obtain ⟨p, _, rfl⟩ := Option.mem_map.mp hn
      exact p.listNode_parameterList
    have hdecls := hnested (c.field? "body") (h ▸ rfl)
    rw [h, callableDraft, Draft.close, bind_lower, htype]
    exact .callable kind flags _ _ _ type _ hkind hparams hnode hdecls
  unfold draft? at hd
  split at hd
  · obtain rfl := Option.some.inj hd
    have hinterfaces : ∀ n ∈ c.interfaceClause?.map nameList, ListNode .nameList NameNode n := by
      intro n hn
      obtain ⟨clause, _, rfl⟩ := Option.mem_map.mp hn
      exact clause.listNode_nameList
    have hdecls := hnested c.classBody? rfl
    rw [classDraft, Draft.close, bind_lower]
    exact .classDecl _ _ _ _ _ (fun _ h => nameNode_of_parentName? h) hinterfaces hdecls
  · split at hd
    · obtain rfl := Option.some.inj hd
      exact c.declNode_propertyGroup
    · exact hcallable _ _ (.inl ⟨rfl, c.hasVisibility_memberFlags⟩) (Option.some.inj hd).symm
    · exact hcallable _ _ (.inr ⟨rfl, rfl⟩) (Option.some.inj hd).symm
    · simp at hd

/-- Everything that is found in a node is a declaration of the grammar. -/
theorem declNode_of_mem_declarations (n : Cst) : ∀ d ∈ declarations n, DeclNode d := by
  induction n using declarations_induction with
  | step n hthrough hbodies =>
    intro node hnode
    rw [declarations_eq] at hnode
    obtain ⟨c, hc, hmem⟩ := List.mem_flatMap.mp hnode
    cases hd : c.draft? with
    | none =>
      rw [contribution_of_none hd] at hmem
      exact hthrough c hc hd node hmem
    | some d =>
      rw [contribution_of_draft hd, List.mem_singleton] at hmem
      subst hmem
      exact declNode_close hd fun b hb => hbodies c hc d b hd hb

private theorem bodyNode_lower (b : Cst) : BodyNode (lower .stmtList b) := by
  rw [lower]
  exact .mk _ _ b.declNode_of_mem_declarations

/-- The tree of a source follows the grammar, and declarations stand in it nowhere but in bodies. -/
theorem tree_follows_grammar (root : Cst) (h : root.head.hasError = false) :
    ∃ t, root.tree = .ok t ∧ BodyNode t ∧ DeclsInBodies t :=
  ⟨_, tree_of_no_error h, bodyNode_lower root, declsInBodies_of_bodyNode (bodyNode_lower root)⟩

theorem nestedClasses_follows_grammar :
    nestedClasses.head.hasError = false ∧ ∃ t, nestedClasses.tree = .ok t ∧ BodyNode t ∧ DeclsInBodies t :=
  ⟨rfl, tree_follows_grammar nestedClasses rfl⟩

end ClassOutline.Cst
