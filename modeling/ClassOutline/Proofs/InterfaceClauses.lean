import ClassOutline.Proofs.SearchedRegion

/-!
# The clause that lists the interfaces

Of the clauses of a class one lists its interfaces, the last that can, and an outline has all names of that clause in
their order. What an interface extends are its interfaces and it has no parent. What any other class extends is its
parent and never one of its interfaces.
-/
namespace ClassOutline.Cst

open Syntax Outline

/-- The last of some nodes that has a property. -/
def IsLast (p : Cst → Bool) (cs : List Cst) (c : Cst) : Prop :=
  ∃ before after, cs = before ++ c :: after ∧ p c = true ∧ ∀ d ∈ after, p d = false

private theorem IsLast.getLast?_filter {p : Cst → Bool} {cs : List Cst} {c : Cst} (h : IsLast p cs c) :
    (cs.filter p).getLast? = some c := by
  obtain ⟨before, after, rfl, hc, hafter⟩ := h
  have hnone : after.filter p = [] := by simpa using hafter
  simp [List.filter_append, hc, hnone]

/-- The clauses of a class that may list its interfaces. -/
def listsInterfaces (n c : Cst) : Bool :=
  c.type == "class_interface_clause" || n.type == "interface_declaration" && c.type == "base_clause"

def isBaseClause (c : Cst) : Bool :=
  c.type == "base_clause"

private theorem interfaceClause?_eq_getLast? (n : Cst) :
    n.interfaceClause? = (n.named.filter n.listsInterfaces).getLast? := by
  have hfilter (types : List String) (h : ∀ c : Cst, types.contains c.type = n.listsInterfaces c) :
      n.lastClause? types = (n.named.filter n.listsInterfaces).getLast? := by
    rw [lastClause?, List.filter_congr fun c _ => h c]
  rw [interfaceClause?]
  split
  · rename_i hinterface
    apply hfilter
    intro c
    simp [listsInterfaces, hinterface, beq_eq_decide, Bool.or_comm]
  · rename_i hclass
    apply hfilter
    intro c
    simp [listsInterfaces, hclass, beq_eq_decide]

/-- The names of a clause. -/
def nameParts (clause : Cst) : List Cst :=
  clause.named.filter fun c => nameTypes.contains c.type

/-- The text of a node without one leading backslash. -/
def ownName (c : Cst) : String :=
  String.ofList (dropLeading '\\' c.chars)

/-- A name stands for its own text, but a named type for the text of the first construct in it. -/
theorem clauseName_eq_ownName {c : Cst}
    (h : c.type = "named_type" → ∀ inner ∈ c.named.head?, inner.chars = c.chars) : clauseName c = c.ownName := by
  unfold clauseName ownName
  by_cases htype : c.type = "named_type"
  · cases hinner : c.named.head? with
    | none => simp [htype]
    | some inner => simp [htype, h htype inner hinner]
  · simp [htype]

private theorem interfaces_of_clause {n clause : Cst} (h : n.interfaceClause? = some clause)
    (body : Cst → Option Node) :
    interfaces (n.classDraft.close body) = clause.nameParts.map clauseName := by
  rw [interfaces_classDraft, h]
  simp [nameParts]

private theorem interfaces_of_no_clause {n : Cst} (h : n.interfaceClause? = none) (body : Cst → Option Node) :
    interfaces (n.classDraft.close body) = [] := by
  rw [interfaces_classDraft, h]
  rfl

private theorem extends_classDraft (n : Cst) (body : Cst → Option Node) :
    (n.classDraft.close body).child? (.named "extends") = some (.ofNode? n.parentName?) :=
  rfl

private theorem parentName?_of_clause {n clause : Cst} (hn : n.type ≠ "interface_declaration")
    (h : n.lastClause? ["base_clause"] = some clause) : n.parentName? = clause.nameParts.head?.map nameNode := by
  rw [parentName?, if_neg (by simpa using hn), h, Option.bind_some, clauseNames, List.head?_map, nameParts]

/-- What a class extends and implements, in a declaration that it is lowered to. -/
structure Heritage (n : Cst) (filter : Filter) (decl : Node) : Prop where
  listed : ∀ clause, IsLast n.listsInterfaces n.named clause →
    (summarize filter decl).interfaces = clause.nameParts.map clauseName
  asWritten : ∀ clause, IsLast n.listsInterfaces n.named clause →
    (∀ c ∈ clause.nameParts, c.type = "named_type" → ∀ inner ∈ c.named.head?, inner.chars = c.chars) →
    (summarize filter decl).interfaces = clause.nameParts.map ownName
  unlisted : (∀ c ∈ n.named, n.listsInterfaces c = false) → (summarize filter decl).interfaces = []
  root : n.type = "interface_declaration" → decl.child? (.named "extends") = some .absent
  parent : n.type ≠ "interface_declaration" → ∀ clause, IsLast isBaseClause n.named clause →
    (decl.node? "extends").bind (·.text? "name") = clause.nameParts.head?.map clauseName
  orphan : n.type ≠ "interface_declaration" → (∀ c ∈ n.named, c.isBaseClause = false) →
    decl.child? (.named "extends") = some .absent

private theorem heritage_classDraft (n : Cst) (filter : Filter) (body : Cst → Option Node) :
    Heritage n filter (n.classDraft.close body) := by
  have hbase : n.lastClause? ["base_clause"] = (n.named.filter isBaseClause).getLast? := by
    rw [lastClause?, List.filter_congr]
    intro c _
    simp [isBaseClause, beq_eq_decide]
  have hlisted (clause : Cst) (hlast : IsLast n.listsInterfaces n.named clause) :
      interfaces (n.classDraft.close body) = clause.nameParts.map clauseName := by
    apply interfaces_of_clause
    rw [interfaceClause?_eq_getLast?, hlast.getLast?_filter]
  constructor
  case listed => exact hlisted
  case asWritten =>
    intro clause hlast hwritten
    exact (hlisted clause hlast).trans (List.map_congr_left fun c hc => clauseName_eq_ownName (hwritten c hc))
  case unlisted =>
    intro hnone
    apply interfaces_of_no_clause
    rw [interfaceClause?_eq_getLast?, List.filter_eq_nil_iff.mpr (by simpa using hnone)]
    rfl
  case root =>
    intro hinterface
    rw [extends_classDraft, parentName?, if_pos (by simpa using hinterface)]
    rfl
  case parent =>
    intro hclass clause hlast
    have hparent := parentName?_of_clause hclass (hbase.trans hlast.getLast?_filter)
    rw [Node.node?_of_child? (extends_classDraft n body), hparent]
    cases clause.nameParts.head? <;> rfl
  case orphan =>
    intro hclass hnone
    have hempty : n.named.filter isBaseClause = [] := List.filter_eq_nil_iff.mpr (by simpa using hnone)
    rw [extends_classDraft, parentName?, if_neg (by simpa using hclass), hbase, hempty]
    rfl

/-- The clauses with the parents of a class do not matter to its interfaces. -/
theorem interfaceClause?_eq_of_same {n n' : Cst} (hclass : n.type ≠ "interface_declaration") (htype : n'.type = n.type)
    (hsame : n'.named.filter (!isBaseClause ·) = n.named.filter (!isBaseClause ·)) :
    n'.interfaceClause? = n.interfaceClause? := by
  have hlists (m : Cst) (hm : m.type = n.type) :
      m.named.filter m.listsInterfaces = (m.named.filter (!isBaseClause ·)).filter m.listsInterfaces := by
    rw [List.filter_filter]
    apply List.filter_congr
    intro c _
    by_cases hc : c.type = "base_clause" <;> simp [listsInterfaces, isBaseClause, hm, hclass, hc]
  have hlisted : n'.listsInterfaces = n.listsInterfaces := by
    funext c
    rw [listsInterfaces, listsInterfaces, htype]
  rw [interfaceClause?_eq_getLast?, interfaceClause?_eq_getLast?, hlists n' htype, hlists n rfl, hsame, hlisted]

/-- Exactly the names of one clause are the interfaces of a class, and what it extends is not mixed with them. -/
theorem interfaces_listed_by_one_clause (n : Cst) (h : n.isClassLike = true) (filter : Filter) :
    n.draft? = some n.classDraft ∧ ∀ body, Heritage n filter (n.classDraft.close body) ∧
      (n.type ≠ "interface_declaration" → ∀ (n' : Cst) body', n'.type = n.type →
        n'.named.filter (!isBaseClause ·) = n.named.filter (!isBaseClause ·) →
        (summarize filter (n'.classDraft.close body')).interfaces =
          (summarize filter (n.classDraft.close body)).interfaces) := by
  refine ⟨by rw [draft?, if_pos h], fun body => ⟨heritage_classDraft n filter body, ?_⟩⟩
  intro hclass n' body' htype hsame
  simp only [summarize, interfaces_classDraft, interfaceClause?_eq_of_same hclass htype hsame]

def spelled (type text : String) (children : List Cst) : Cst :=
  .node ⟨type, none, 0, text.toUTF8, true, false, false⟩ children

/-- A list of a qualified name and of a named type that is longer than the name in it. -/
def twoInterfaces : Cst :=
  construct "class_interface_clause" none [spelled "qualified_name" "\\A\\B" [], construct "comment" none [],
    spelled "named_type" "C " [spelled "name" "C" []]]

/-- A class-like node with some clauses in front of the one that counts. -/
def extended (type : String) (clauses : List Cst) : Cst :=
  construct type none (clauses ++ [twoInterfaces, construct "declaration_list" none []])

def parentClause : Cst :=
  construct "base_clause" none [spelled "name" "P" []]

private theorem isLast_twoInterfaces (type : String) (clauses : List Cst) :
    IsLast (extended type clauses).listsInterfaces (extended type clauses).named twoInterfaces := by
  refine ⟨clauses.filter (·.head.named), [construct "declaration_list" none []], ?_, rfl, ?_⟩
  · rw [extended, named, construct, children, List.filter_append]
    rfl
  · simp [listsInterfaces, construct, Cst.type, head]

theorem extended_heritage :
    (extended "class_declaration" [parentClause]).isClassLike = true ∧
    (summarize .all ((extended "class_declaration" [parentClause]).classDraft.close fun _ => none)).interfaces =
      ["A\\B", "C"] ∧
    (summarize .all ((extended "class_declaration" []).classDraft.close fun _ => none)).interfaces = ["A\\B", "C"] ∧
    (((extended "class_declaration" [parentClause]).classDraft.close fun _ => none).node? "extends").bind
      (·.text? "name") = some "P" := by
  obtain ⟨_, hall⟩ := interfaces_listed_by_one_clause (extended "class_declaration" [parentClause]) rfl .all
  obtain ⟨hheritage, hsame⟩ := hall fun _ => none
  have hinterfaces := hheritage.listed twoInterfaces (isLast_twoInterfaces _ _)
  have hnames : twoInterfaces.nameParts.map clauseName = ["A\\B", "C"] := by decide
  have hparent : parentClause.nameParts.head?.map clauseName = some "P" := by decide
  refine ⟨rfl, hinterfaces.trans hnames, ?_, ?_⟩
  · exact (hsame (by decide) (extended "class_declaration" []) _ rfl rfl).trans (hinterfaces.trans hnames)
  · refine (hheritage.parent (by decide) parentClause ?_).trans hparent
    exact ⟨[], [twoInterfaces, construct "declaration_list" none []], rfl, rfl, by decide⟩

/-- The names of a clause are not always listed as they are written there. -/
theorem not_listed_as_written :
    ¬ ∀ n clause : Cst, n.isClassLike = true → IsLast n.listsInterfaces n.named clause →
      (summarize .all (declared n)).interfaces = clause.nameParts.map ownName := by
  intro hwritten
  have hnames := hwritten (extended "class_declaration" []) twoInterfaces rfl (isLast_twoInterfaces _ _)
  rw [declared_classLike rfl, (heritage_classDraft _ _ _).listed twoInterfaces (isLast_twoInterfaces _ _)] at hnames
  exact absurd hnames (by decide)

end ClassOutline.Cst
