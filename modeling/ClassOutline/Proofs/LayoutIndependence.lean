import ClassOutline.Proofs.LoweredTypes
import ClassOutline.Proofs.RelatedLists

/-!
# Outlines do not depend on the layout

Two concrete trees of the same shape have the same outline if the names, variables, visibilities and simple types in
them have the same texts. Rows, and the texts of everything else, make no difference.
-/
namespace ClassOutline.Cst

open Syntax Outline

/-- The types of nodes whose own text may be read. -/
def readTypes : List String :=
  ["variable_name", "visibility_modifier", "name", "qualified_name", "named_type", "primitive_type", "bottom_type"]

/-- Whether the text of a node may be read for what the node is. -/
def isRead (n : Cst) : Bool :=
  n.head.field == some "name" || readTypes.contains n.type

/-- Trees of the same shape with the same texts where they may be read. Of a named type the text of the first named
child may be read too. -/
inductive Alike : Cst → Cst → Prop
  | node {a b : Cst} (type : a.type = b.type) (field : a.head.field = b.head.field)
      (named : a.head.named = b.head.named) (missing : a.head.missing = b.head.missing)
      (hasError : a.head.hasError = b.head.hasError)
      (text : a.isRead = true → a.chars = b.chars)
      (innerText : a.type = "named_type" → a.named.head?.map chars = b.named.head?.map chars)
      (children : List.Forall₂ Alike a.children b.children) : Alike a b

private theorem isRead_of_field? {n c : Cst} (h : n.field? "name" = some c) : c.isRead = true := by
  have hfield : c.head.field = some "name" := by simpa using List.find?_some h
  simp [isRead, hfield]

private theorem isRead_of_type {n : Cst} (h : readTypes.contains n.type = true) : n.isRead = true := by
  rw [isRead, h, Bool.or_true]

private theorem readTypes_of_simple {type : String} (h : TypeForm.of type = .simple) :
    readTypes.contains type = true := by
  unfold TypeForm.of at h
  split at h <;> cases h <;> rfl

private theorem readTypes_of_nameTypes {type : String} (h : nameTypes.contains type = true) :
    readTypes.contains type = true := by
  simp only [nameTypes, List.contains_cons, List.contains_nil, Bool.or_false, Bool.or_eq_true, beq_iff_eq] at h
  rcases h with rfl | rfl | rfl <;> rfl

private theorem isRead_of_propertyVariable? {n c : Cst} (h : n.propertyVariable? = some c) : c.isRead = true := by
  rw [propertyVariable?] at h
  cases hfield : n.field? "name" with
  | some d =>
    rw [hfield] at h
    exact isRead_of_field? (hfield.trans h)
  | none =>
    rw [hfield] at h
    have htype : c.type = "variable_name" := by simpa using List.find?_some h
    exact isRead_of_type (by simp [readTypes, htype])

/-! ### Parts of trees that are alike -/

namespace Alike

variable {a b : Cst}

theorem type (h : Alike a b) : a.type = b.type := by
  cases h with
  | node type => exact type

theorem field (h : Alike a b) : a.head.field = b.head.field := by
  cases h with
  | node _ field => exact field

theorem isNamed (h : Alike a b) : a.head.named = b.head.named := by
  cases h with
  | node _ _ named => exact named

theorem hasError (h : Alike a b) : a.head.hasError = b.head.hasError := by
  cases h with
  | node _ _ _ _ hasError => exact hasError

theorem chars (h : Alike a b) (hread : a.isRead = true) : a.chars = b.chars := by
  cases h with
  | node _ _ _ _ _ text => exact text hread

private theorem innerChars (h : Alike a b) (hnamed : a.type = "named_type") :
    a.named.head?.map Cst.chars = b.named.head?.map Cst.chars := by
  cases h with
  | node _ _ _ _ _ _ innerText => exact innerText hnamed

theorem children (h : Alike a b) : List.Forall₂ Alike a.children b.children := by
  cases h with
  | node _ _ _ _ _ _ _ children => exact children

theorem named (h : Alike a b) : List.Forall₂ Alike a.named b.named :=
  forall₂_filter (fun _ _ hxy => hxy.isNamed) h.children

theorem field? (h : Alike a b) (name : String) : Option.Rel Alike (a.field? name) (b.field? name) :=
  rel_find? (fun _ _ hxy => by rw [hxy.field]) h.children

theorem namedOf? (h : Alike a b) (types : List String) : Option.Rel Alike (a.namedOf? types) (b.namedOf? types) :=
  rel_find? (fun _ _ hxy => by rw [hxy.type]) h.named

theorem lastClause? (h : Alike a b) (types : List String) :
    Option.Rel Alike (a.lastClause? types) (b.lastClause? types) :=
  rel_getLast? (forall₂_filter (fun _ _ hxy => by rw [hxy.type]) h.named)

theorem interfaceClause? (h : Alike a b) : Option.Rel Alike a.interfaceClause? b.interfaceClause? := by
  rw [Cst.interfaceClause?, Cst.interfaceClause?, h.type]
  split
  · exact h.lastClause? _
  · exact h.lastClause? _

theorem typePart? (h : Alike a b) : Option.Rel Alike a.typePart? b.typePart? :=
  rel_orElse (h.field? "type") (h.namedOf? typeNodeTypes)

theorem returnTypePart? (h : Alike a b) : Option.Rel Alike a.returnTypePart? b.returnTypePart? := by
  have hfield := h.field? "return_type"
  rw [Cst.returnTypePart?, Cst.returnTypePart?]
  generalize a.field? "return_type" = r, b.field? "return_type" = r' at hfield
  cases hfield with
  | none => exact h.typePart?
  | some hr =>
    dsimp only
    rw [hr.type]
    split
    · exact .some hr
    · exact hr.typePart?

theorem propertyVariable? (h : Alike a b) : Option.Rel Alike a.propertyVariable? b.propertyVariable? :=
  rel_orElse (h.field? "name") (h.namedOf? ["variable_name"])

private theorem types_named (h : Alike a b) : a.named.map Cst.type = b.named.map Cst.type :=
  map_eq_of_forall₂ h.named fun _ _ _ hxy => hxy.type

theorem isClassLike (h : Alike a b) : a.isClassLike = b.isClassLike := by
  have hany (n : Cst) : (n.named.any fun c => c.type == "declaration_list") =
      (n.named.map Cst.type).any (· == "declaration_list") := by
    rw [List.any_map]
    rfl
  rw [Cst.isClassLike, Cst.isClassLike, h.type, hany, hany, h.types_named]

theorem isDeclaration (h : Alike a b) : a.isDeclaration = b.isDeclaration := by
  rw [Cst.isDeclaration, Cst.isDeclaration, h.isClassLike, h.type]

theorem interior? (h : Alike a b) : Option.Rel Alike a.interior? b.interior? := by
  rw [Cst.interior?, Cst.interior?, h.isClassLike, h.type]
  split
  · exact rel_orElse (h.field? "body") (h.namedOf? _)
  · split
    · exact .none
    · exact h.field? "body"

/-! ### The region -/

private theorem within_of_region (h : Alike a b)
    (hregion : ∀ c ∈ a.interior?, ∀ d, Alike c d → List.Forall₂ Alike (region c) (region d)) :
    List.Forall₂ Alike (Cst.within a) (Cst.within b) := by
  rw [within_eq, within_eq]
  exact forall₂_flatMap (forall₂_toList h.interior?) fun c hc => hregion c (Option.mem_toList.mp hc)

/-- Trees that are alike have regions of declarations that are alike. -/
theorem region (h : Alike a b) : List.Forall₂ Alike (Cst.region a) (Cst.region b) := by
  induction a using declarations_induction generalizing b with
  | step a hthrough hbodies =>
    rw [region_eq, region_eq]
    apply forall₂_flatMap h.named
    intro c hc d hcd
    rw [met, met, hcd.isDeclaration]
    split
    · rename_i hdecl
      obtain ⟨draft, hdraft, hbody⟩ := exists_draft_of_isDeclaration (hcd.isDeclaration.trans hdecl)
      refine .cons hcd (hcd.within_of_region ?_)
      intro inner hinner e he
      exact hbodies c hc draft inner hdraft (hbody.trans hinner) he
    · rename_i hdecl
      have hnone := draft?_eq_none_of_isDeclaration (hcd.isDeclaration.trans (Bool.eq_false_iff.mpr hdecl))
      exact hthrough c hc hnone hcd

theorem within (h : Alike a b) : List.Forall₂ Alike (Cst.within a) (Cst.within b) :=
  h.within_of_region fun _ _ _ hcd => hcd.region

/-! ### What an outline reads -/

theorem modifier? (h : Alike a b) : a.modifier? = b.modifier? := by
  have hword : a.type = "visibility_modifier" → a.visibilityWord = b.visibilityWord := by
    intro htype
    rw [visibilityWord, visibilityWord, h.chars (by simp [isRead, readTypes, htype])]
  unfold Cst.modifier?
  rw [← h.type]
  split
  · rename_i htype
    rw [hword htype]
  all_goals rfl

theorem memberFlags (h : Alike a b) : a.memberFlags = b.memberFlags := by
  have hmodifiers : a.children.filterMap Cst.modifier? = b.children.filterMap Cst.modifier? :=
    filterMap_eq_of_forall₂ h.children fun _ _ _ hxy => hxy.modifier?
  rw [Cst.memberFlags, Cst.memberFlags, modifierMask, modifierMask, hmodifiers]

theorem modifiers (h : Alike a b) : a.modifiers = b.modifiers := by
  rw [Cst.modifiers, Cst.modifiers, h.memberFlags]

private theorem text_name (h : Alike a b) : (a.field? "name").map Cst.text = (b.field? "name").map Cst.text := by
  apply map_eq_of_rel (h.field? "name")
  intro x hx y hxy
  rw [Cst.text, Cst.text, hxy.chars (isRead_of_field? hx)]

private theorem variableName_property (h : Alike a b) :
    a.propertyVariable?.map Cst.variableName = b.propertyVariable?.map Cst.variableName := by
  apply map_eq_of_rel h.propertyVariable?
  intro x hx y hxy
  rw [Cst.variableName, Cst.variableName, hxy.chars (isRead_of_propertyVariable? hx)]

theorem clauseName (h : Alike a b) (hread : a.isRead = true) : a.clauseName = b.clauseName := by
  rw [clauseName_eq, clauseName_eq, ← h.type, h.chars hread]
  split
  · rename_i htype
    rw [h.innerChars (by simpa using htype)]
  · rfl

/-- Lowered types differ in their lines at most, which their texts do not show. -/
theorem typeText_typeTree (h : Alike a b) (above : Nat) : a.typeTree.typeText above = b.typeTree.typeText above := by
  induction a using children_induction generalizing b above with
  | step a ih =>
    have hnamed : ∀ c ∈ a.named, ∀ d, Alike c d → ∀ above, c.typeTree.typeText above = d.typeTree.typeText above :=
      fun c hc d hcd above => ih c (List.mem_of_mem_filter hc) hcd above
    rw [typeTree_eq a, typeTree_eq b, h.type]
    cases hform : TypeForm.of b.type with
    | optional =>
      have hfirst : (typeTree? a.named.head?).typeText (above + 1) = (typeTree? b.named.head?).typeText (above + 1) := by
        rw [typeText_typeTree?, typeText_typeTree?]
        congr 1
        apply map_eq_of_rel (rel_head? h.named)
        intro c hc d hcd
        exact hnamed c (List.mem_of_mem_head? hc) d hcd (above + 1)
      simp only [Child.typeText, Node.typeText, Child.typeTextIn, BEq.rfl, if_true, hfirst]
    | joined kind =>
      obtain ⟨separator, hseparator⟩ := TypeForm.separator_of_joined hform
      have hmembers : List.Forall₂ Alike (a.named.filter fun c => c.type != "comment")
          (b.named.filter fun c => c.type != "comment") := forall₂_filter (fun _ _ hxy => by rw [hxy.type]) h.named
      dsimp only
      rw [typeText_typeList hseparator, typeText_typeList hseparator, List.map_map, List.map_map]
      congr 1
      apply map_eq_of_forall₂ hmembers
      intro c hc d hcd
      funext above
      exact hnamed c (List.mem_of_mem_filter hc) d hcd above
    | simple =>
      have hread : a.isRead = true := isRead_of_type (h.type ▸ readTypes_of_simple hform)
      simp only [Child.typeText, typeText_simpleType, h.chars hread, h.clauseName hread]
    | other => simp only [Child.typeText, Node.typeText]

theorem toMethodEntry (h : Alike a b) : a.toMethodEntry = b.toMethodEntry := by
  have hparameters : a.parameterNodes.length = b.parameterNodes.length := by
    apply List.Forall₂.length_eq (R := Alike)
    apply forall₂_flatMap (forall₂_toList (h.field? "parameters"))
    intro c _ d hcd
    exact forall₂_filter (fun _ _ hxy => by rw [hxy.type]) hcd.named
  have hreturn : (a.returnTypePart?.map fun t => t.typeTree.typeText 0) =
      b.returnTypePart?.map fun t => t.typeTree.typeText 0 :=
    map_eq_of_rel h.returnTypePart? fun _ _ _ hcd => hcd.typeText_typeTree 0
  have hentry (n : Cst) : n.toMethodEntry = ⟨orUnnamed "unknown" ((n.field? "name").map Cst.text),
      n.modifiers.visibility, n.parameterNodes.length,
      (n.returnTypePart?.map fun t => t.typeTree.typeText 0).getD "untyped"⟩ := by
    rw [Cst.toMethodEntry]
    cases n.returnTypePart? <;> rfl
  rw [hentry, hentry, h.text_name, h.modifiers, hparameters, hreturn]

theorem toPropertyEntries (h : Alike a b) : a.toPropertyEntries = b.toPropertyEntries := by
  have helements : List.Forall₂ Alike (a.named.filter fun c => c.type == "property_element")
      (b.named.filter fun c => c.type == "property_element") := forall₂_filter (fun _ _ hxy => by rw [hxy.type]) h.named
  have hentries (n : Cst) (vs : List Cst) : (vs.filterMap Cst.propertyVariable?).map
      (fun v => (⟨v.variableName, n.modifiers.visibility⟩ : PropertyEntry)) =
      (vs.filterMap fun e => e.propertyVariable?.map Cst.variableName).map fun name => ⟨name, n.modifiers.visibility⟩ := by
    rw [← List.map_filterMap, List.map_map]
    rfl
  rw [Cst.toPropertyEntries, Cst.toPropertyEntries, hentries, hentries, h.modifiers,
    filterMap_eq_of_forall₂ helements fun _ _ _ hxy => hxy.variableName_property]

theorem toSummary (h : Alike a b) (filter : Filter) : a.toSummary filter = b.toSummary filter := by
  have hinterfaces : (a.interfaceClause?.toList.flatMap fun clause =>
      (clause.named.filter fun n => nameTypes.contains n.type).map Cst.clauseName) =
      b.interfaceClause?.toList.flatMap fun clause =>
        (clause.named.filter fun n => nameTypes.contains n.type).map Cst.clauseName := by
    apply flatMap_eq_of_forall₂ (forall₂_toList h.interfaceClause?)
    intro c _ d hcd
    apply map_eq_of_forall₂ (forall₂_filter (fun _ _ hxy => by rw [hxy.type]) hcd.named)
    intro x hx y hxy
    exact hxy.clauseName (isRead_of_type (readTypes_of_nameTypes (List.mem_filter.mp hx).2))
  have hmembers (type : String) : List.Forall₂ Alike
      ((Cst.within a).filter fun m => m.type == type && filter.allows m.modifiers)
      ((Cst.within b).filter fun m => m.type == type && filter.allows m.modifiers) :=
    forall₂_filter (fun _ _ hxy => by rw [hxy.type, hxy.modifiers]) h.within
  rw [Cst.toSummary, Cst.toSummary, h.text_name, hinterfaces,
    flatMap_eq_of_forall₂ (hmembers "property_declaration") fun _ _ _ hxy => hxy.toPropertyEntries,
    map_eq_of_forall₂ (hmembers "method_declaration") fun _ _ _ hxy => hxy.toMethodEntry]

end Alike

private theorem ofTree_lower (filter : Filter) (root : Cst) :
    Outline.ofTree filter (.node (lower .stmtList root)) =
      ((region root).find? isClassLike).map (toSummary filter) := by
  rw [Outline.ofTree, firstClass?_lower]
  cases hfind : (region root).find? isClassLike with
  | none => rfl
  | some c => rw [Option.map_some, Option.map_some, Option.map_some, summarize_declared filter (List.find?_some hfind)]

/-- Trees that differ in their layout only have the same outline. -/
theorem outline_independent_of_layout (a b : Cst) (h : Alike a b) (hroot : a.head.hasError = false) (filter : Filter) :
    ∃ t u, a.tree = .ok t ∧ b.tree = .ok u ∧ Outline.ofTree filter (.node t) = Outline.ofTree filter (.node u) := by
  refine ⟨_, _, tree_of_no_error hroot, tree_of_no_error (h.hasError ▸ hroot), ?_⟩
  rw [ofTree_lower, ofTree_lower]
  exact map_eq_of_rel (rel_find? (fun _ _ hxy => hxy.isClassLike) h.region) fun _ _ _ hxy => hxy.toSummary filter

/-- A construct whose text is not read, at a row and with a text. -/
def filler (row : Nat) (bytes : ByteArray) (type : String) (field : Option String) (children : List Cst) : Cst :=
  .node ⟨type, field, row, bytes, true, false, false⟩ children

def word (row : Nat) (type : String) (field : Option String) (text : String) : Cst :=
  .node ⟨type, field, row, text.toUTF8, true, false, false⟩ []

/-- A class with a private method, on a row and with a text for all that is not read. -/
def laidOut (row : Nat) (bytes : ByteArray) : Cst :=
  filler row bytes "program" none
    [filler row bytes "class_declaration" none
      [word row "name" (some "name") "A",
        filler row bytes "declaration_list" (some "body")
          [filler row bytes "comment" none [],
            filler row bytes "method_declaration" none
              [word row "visibility_modifier" none "private", word row "name" (some "name") "f"]]]]

private theorem alike_word (row row' : Nat) (type : String) (field : Option String) (text : String) :
    Alike (word row type field text) (word row' type field text) :=
  .node rfl rfl rfl rfl rfl (fun _ => rfl) (fun _ => rfl) .nil

private theorem alike_filler {row row' : Nat} {bytes bytes' : ByteArray} {type : String} {field : Option String}
    {cs cs' : List Cst} (hread : (filler 0 .empty type field []).isRead = false) (h : List.Forall₂ Alike cs cs') :
    Alike (filler row bytes type field cs) (filler row' bytes' type field cs') := by
  have hquiet : (filler row bytes type field cs).isRead = false := hread
  refine .node rfl rfl rfl rfl rfl ?_ ?_ h
  · rw [hquiet]
    intro hfalse
    contradiction
  · intro hnamed
    have htype : (filler 0 .empty type field []).type = "named_type" := hnamed
    rw [isRead, htype, Bool.or_eq_false_iff] at hread
    simp [readTypes] at hread

private theorem alike_laidOut (row row' : Nat) (bytes bytes' : ByteArray) :
    Alike (laidOut row bytes) (laidOut row' bytes') :=
  alike_filler (by decide) (.cons (alike_filler (by decide) (.cons (alike_word ..) (.cons (alike_filler (by decide)
    (.cons (alike_filler (by decide) .nil) (.cons (alike_filler (by decide)
      (.cons (alike_word ..) (.cons (alike_word ..) .nil))) .nil))) .nil))) .nil)

theorem laidOut_outline :
    Alike (laidOut 0 .empty) (laidOut 7 "// a class".toUTF8) ∧ (laidOut 0 .empty).head.hasError = false ∧
      ∃ t u, (laidOut 0 .empty).tree = .ok t ∧ (laidOut 7 "// a class".toUTF8).tree = .ok u ∧
        Outline.ofTree .all (.node t) = Outline.ofTree .all (.node u) :=
  ⟨alike_laidOut .., rfl, outline_independent_of_layout _ _ (alike_laidOut ..) rfl .all⟩

end ClassOutline.Cst
