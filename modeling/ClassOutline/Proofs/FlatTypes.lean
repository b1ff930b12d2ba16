import ClassOutline.Proofs.LoweredTypes
import Mathlib.Data.List.Forall2

/-!
# The texts of types

The text of a type can be read off its concrete node: lists of types are joined, a question mark stands in front of an
optional type, and words stand for themselves. Lowering a type and writing what comes out gives the same text, as long
as the lowered type is not too deep, whether lists of one type are replaced by that type or not.
-/
namespace ClassOutline.Syntax

/-! ### How deep a tree is -/

mutual

/-- The number of nodes on the longest path down from a node. -/
def Node.height : Node → Nat
  | .mk _ _ _ children => Child.heights children + 1

def Child.height : Child → Nat
  | .node n => n.height
  | _ => 0

def Child.heights : List (Slot × Child) → Nat
  | [] => 0
  | (_, c) :: rest => max c.height (Child.heights rest)

end

theorem Child.height_le_heights {slot : Slot} {c : Child} {cs : List (Slot × Child)} (h : (slot, c) ∈ cs) :
    c.height ≤ Child.heights cs := by
  induction cs with
  | nil => exact absurd h List.not_mem_nil
  | cons x cs ih =>
    obtain ⟨s, d⟩ := x
    rw [Child.heights]
    rcases List.mem_cons.mp h with heq | h
    · cases heq
      exact Nat.le_max_left _ _
    · exact Nat.le_trans (ih h) (Nat.le_max_right _ _)

private theorem Node.height_lt_list {kind : Kind} {members : List Child} {line : Int} {c : Child} (h : c ∈ members) :
    c.height < (Node.list kind members line).height := by
  rw [← Node.map_snd_indexed 0 members] at h
  obtain ⟨⟨slot, d⟩, hmem, rfl⟩ := List.mem_map.mp h
  rw [Node.list, Node.height]
  exact Nat.lt_succ_of_le (Child.height_le_heights hmem)

private theorem Node.height_pos (n : Node) : 0 < n.height := by
  cases n with
  | mk kind flags line children => exact Nat.succ_pos _

private theorem Node.typeText_nullable {above : Nat} (h : above < maxTypeDepth) (line : Int) (inner : Child) :
    (Node.mk .nullableType 0 line [(.named "type", inner)]).typeText above = "?" ++ inner.typeText (above + 1) := by
  simp only [Node.typeText, if_neg (Nat.not_le.mpr h), Child.typeTextIn, BEq.rfl, if_true]

/-! ### Built-in types -/

private theorem TypeKeyword.flagName_flag (k : TypeKeyword) :
    flagName k.flag = if k.isNamed then k.keyword else unknownType := by
  cases k <;> rfl

private theorem TypeKeyword.keyword_of_ofKeyword? {s : String} {k : TypeKeyword}
    (h : TypeKeyword.ofKeyword? s = some k) :
    k.keyword = s := by
  simpa using List.find?_some h

private theorem TypeKeyword.keyword_ne_of_ofKeyword? {s : String} (h : TypeKeyword.ofKeyword? s = none)
    (k : TypeKeyword) :
    k.keyword ≠ s := by
  have hall : k ∈ TypeKeyword.all := by cases k <;> decide
  simpa using List.find?_eq_none.mp h k hall

end ClassOutline.Syntax

namespace ClassOutline.Cst

open Syntax

/-! ### Texts by the concrete node -/

/-- The words that stand for themselves. -/
def plainWords : List String :=
  ["void", "null", "false", "bool", "int", "float", "string", "array", "object", "callable", "iterable", "mixed"]

/-- The words of types without a name. -/
def namelessWords : List String := ["true", "static", "never"]

/-- The text of a word where a type is expected: a built-in type in lower case, or a name without a leading
backslash. -/
def flatWord (n : Cst) : String :=
  let word := String.ofList (Text.lower (Text.trim n.chars))
  if plainWords.contains word then word
  else if namelessWords.contains word then "unknown"
  else n.clauseName

mutual

/-- The text of the type that a node stands for. -/
def flat : Cst → String
  | .node head children =>
    match head.type with
    | "optional_type" => "?" ++ flatFirst children
    | "union_type" => "|".intercalate (flatMembers children)
    | "disjunctive_normal_form_type" => "|".intercalate (flatMembers children)
    | "type_list" => "|".intercalate (flatMembers children)
    | "intersection_type" => "&".intercalate (flatMembers children)
    | "primitive_type" => flatWord (.node head children)
    | "bottom_type" => flatWord (.node head children)
    | "named_type" => flatWord (.node head children)
    | "name" => flatWord (.node head children)
    | "qualified_name" => flatWord (.node head children)
    | _ => "unknown"

/-- The text of the first named child. -/
def flatFirst : List Cst → String
  | [] => "unknown"
  | c :: rest => if c.head.named then c.flat else flatFirst rest

/-- The texts of the named children other than comments. -/
def flatMembers : List Cst → List String
  | [] => []
  | c :: rest => if c.head.named && c.head.type != "comment" then c.flat :: flatMembers rest else flatMembers rest

end

/-- The members of a list of types. -/
def typeMembers (n : Cst) : List Cst :=
  n.named.filter fun c => c.type != "comment"

private theorem flatFirst_eq (cs : List Cst) : flatFirst cs = ((cs.find? (·.head.named)).map flat).getD "unknown" := by
  induction cs with
  | nil => rfl
  | cons c cs ih =>
    rw [flatFirst, List.find?_cons, ih]
    cases c.head.named <;> rfl

private theorem flatMembers_eq (cs : List Cst) :
    flatMembers cs = (cs.filter fun c => c.head.named && c.head.type != "comment").map flat := by
  induction cs with
  | nil => rfl
  | cons c cs ih =>
    rw [flatMembers, List.filter_cons, ih]
    split <;> rfl

private theorem flat_eq (n : Cst) : n.flat =
    match TypeForm.of n.type with
    | .optional => "?" ++ (n.named.head?.map flat).getD "unknown"
    | .joined kind => joinTypes (kind.typeSeparator?.getD "") (n.typeMembers.map flat)
    | .simple => n.flatWord
    | .other => "unknown" := by
  obtain ⟨head, children⟩ := n
  have hfirst : flatFirst children = ((Cst.node head children).named.head?.map flat).getD "unknown" := by
    rw [flatFirst_eq, named, List.head?_filter]
    rfl
  have hmembers : flatMembers children = (Cst.node head children).typeMembers.map flat := by
    rw [flatMembers_eq, typeMembers, named, List.filter_filter]
    simp only [Bool.and_comm]
    rfl
  rw [flat, hfirst, hmembers]
  unfold TypeForm.of type Cst.head
  dsimp only
  split <;> simp_all <;> rfl

private theorem plainWords_contains (k : TypeKeyword) : plainWords.contains k.keyword = k.isNamed := by
  cases k <;> decide

private theorem namelessWords_contains (k : TypeKeyword) : namelessWords.contains k.keyword = !k.isNamed := by
  cases k <;> decide

/-- The number of a built-in type leads back to its word. -/
theorem typeText_simpleType_eq_flatWord (n : Cst) {above : Nat} (h : above < maxTypeDepth) :
    n.simpleType.typeText above = n.flatWord := by
  rw [typeText_simpleType, if_neg (Nat.not_le.mpr h), flatWord]
  cases hword : TypeKeyword.ofKeyword? (String.ofList (Text.lower (Text.trim n.chars))) with
  | some k =>
    have hk : k.keyword = String.ofList (Text.lower (Text.trim n.chars)) := TypeKeyword.keyword_of_ofKeyword? hword
    dsimp only
    rw [← hk, plainWords_contains, namelessWords_contains, TypeKeyword.flagName_flag]
    cases k.isNamed <;> rfl
  | none =>
    have hplain : ∀ w ∈ plainWords ++ namelessWords, ∃ k : TypeKeyword, k.keyword = w := by
      simp only [plainWords, namelessWords, List.cons_append, List.nil_append, List.forall_mem_cons, List.not_mem_nil,
        false_implies, implies_true, and_true]
      exact ⟨⟨.void, rfl⟩, ⟨.null, rfl⟩, ⟨.false, rfl⟩, ⟨.bool, rfl⟩, ⟨.int, rfl⟩, ⟨.float, rfl⟩, ⟨.string, rfl⟩,
        ⟨.array, rfl⟩, ⟨.object, rfl⟩, ⟨.callable, rfl⟩, ⟨.iterable, rfl⟩, ⟨.mixed, rfl⟩, ⟨.true, rfl⟩, ⟨.static, rfl⟩,
        ⟨.never, rfl⟩⟩
    have hno : String.ofList (Text.lower (Text.trim n.chars)) ∉ plainWords ++ namelessWords := by
      intro hmem
      obtain ⟨k, hk⟩ := hplain _ hmem
      exact TypeKeyword.keyword_ne_of_ofKeyword? hword k hk
    rw [List.mem_append, not_or] at hno
    simp [hno.1, hno.2]

/-! ### Lowered types with and without lists of one type -/

/-- A lowered form of a type. A list of one type may be replaced by that type, or may be kept. -/
inductive LowersTo : Cst → Child → Prop
  | nullable {n c : Cst} {inner : Child} (line : Int) (hform : TypeForm.of n.type = .optional)
      (hfirst : n.named.head? = some c) (hinner : LowersTo c inner) :
      LowersTo n (.node (.mk .nullableType 0 line [(.named "type", inner)]))
  | empty {n : Cst} (line : Int) (hform : TypeForm.of n.type = .optional) (hfirst : n.named.head? = none) :
      LowersTo n (.node (.mk .nullableType 0 line [(.named "type", .absent)]))
  | joined {n : Cst} {kind : Kind} {members : List Child} (line : Int) (hform : TypeForm.of n.type = .joined kind)
      (hmembers : List.Forall₂ LowersTo n.typeMembers members) : LowersTo n (.node (.list kind members line))
  | replaced {n c : Cst} {kind : Kind} {child : Child} (hform : TypeForm.of n.type = .joined kind)
      (hone : n.typeMembers = [c]) (hchild : LowersTo c child) : LowersTo n child
  | simple {n : Cst} (hform : TypeForm.of n.type = .simple) : LowersTo n (.node n.simpleType)
  | other {n : Cst} (line : Int) (hform : TypeForm.of n.type = .other) : LowersTo n (.node (.mk .other 0 line []))

private theorem mem_children_of_typeMembers {n c : Cst} (h : c ∈ n.typeMembers) : c ∈ n.children :=
  List.mem_of_mem_filter (List.mem_of_mem_filter h)

private theorem mem_children_of_head? {n c : Cst} (h : n.named.head? = some c) : c ∈ n.children :=
  List.mem_of_mem_filter (List.mem_of_mem_head? h)

theorem LowersTo.typeList {n : Cst} {kind : Kind} {members : List Child} (hform : TypeForm.of n.type = .joined kind)
    (hmembers : List.Forall₂ LowersTo n.typeMembers members) (line : Nat) :
    LowersTo n (typeList kind line members) := by
  match members with
  | [] => exact .joined line hform hmembers
  | [m] =>
    obtain ⟨c, rest, hc, hrest, hlist⟩ := List.forall₂_cons_right_iff.mp hmembers
    rw [List.forall₂_nil_right_iff.mp hrest] at hlist
    exact .replaced hform hlist hc
  | _ :: _ :: _ => exact .joined line hform hmembers

private theorem lowersTo_typeTree (n : Cst) : LowersTo n n.typeTree := by
  induction n using children_induction with
  | step n ih =>
    rw [typeTree_eq]
    cases hform : TypeForm.of n.type with
    | optional =>
      cases hfirst : n.named.head? with
      | none => exact .empty _ hform hfirst
      | some c => exact .nullable _ hform hfirst (ih c (mem_children_of_head? hfirst))
    | joined kind =>
      apply LowersTo.typeList hform
      change List.Forall₂ LowersTo n.typeMembers (n.typeMembers.map typeTree)
      rw [List.forall₂_map_right_iff, List.forall₂_same]
      intro c hc
      exact ih c (mem_children_of_typeMembers hc)
    | simple => exact .simple hform
    | other => exact .other _ hform

private theorem typeTexts_eq_flats {nodes : List Cst} {members : List Child} (h : List.Forall₂ LowersTo nodes members)
    {above : Nat} (htext : ∀ c ∈ nodes, ∀ m ∈ members, LowersTo c m → m.typeText above = c.flat) :
    members.map (Child.typeText above) = nodes.map flat := by
  induction h with
  | nil => rfl
  | @cons c m nodes members hcm _ ih =>
    rw [List.map_cons, List.map_cons, htext c List.mem_cons_self m List.mem_cons_self hcm]
    congr 1
    apply ih
    intro d hd k hk
    exact htext d (List.mem_cons_of_mem _ hd) k (List.mem_cons_of_mem _ hk)

/-- A lowered type that is not too deep is written as the text of its concrete node. -/
theorem LowersTo.typeText_eq_flat {n : Cst} {child : Child} (h : LowersTo n child) {above : Nat}
    (hheight : above + child.height ≤ maxTypeDepth) : child.typeText above = n.flat := by
  induction n using children_induction generalizing child above with
  | step n ih =>
    have hroom {m : Node} (hm : above + m.height ≤ maxTypeDepth) : above < maxTypeDepth := by
      have hpos := m.height_pos
      omega
    rw [flat_eq]
    cases h with
    | @nullable _ c inner line hform hfirst hinner =>
      have hbelow : inner.height < (Node.mk .nullableType 0 line [(.named "type", inner)]).height :=
        Nat.lt_succ_of_le (Child.height_le_heights List.mem_cons_self)
      have hinside : above + 1 + inner.height ≤ maxTypeDepth := by
        rw [Child.height] at hheight
        omega
      rw [Child.height] at hheight
      simp only [hform, hfirst, Child.typeText, Node.typeText_nullable (hroom hheight),
        ih c (mem_children_of_head? hfirst) hinner hinside, Option.map_some, Option.getD_some]
    | empty line hform hfirst =>
      rw [Child.height] at hheight
      simp only [hform, hfirst, Child.typeText, Node.typeText_nullable (hroom hheight)]
      rfl
    | @joined _ kind members line hform hmembers =>
      obtain ⟨separator, hseparator⟩ := TypeForm.separator_of_joined hform
      rw [Child.height] at hheight
      have htexts : members.map (Child.typeText (above + 1)) = n.typeMembers.map flat := by
        apply typeTexts_eq_flats hmembers
        intro c hc m hm hcm
        have hbelow : m.height < (Node.list kind members line).height := Node.height_lt_list hm
        exact ih c (mem_children_of_typeMembers hc) hcm (by omega)
      simp only [hform, Child.typeText, Node.typeText_list hseparator, if_neg (Nat.not_le.mpr (hroom hheight)), htexts,
        hseparator, Option.getD_some]
    | @replaced _ c kind _ hform hone hchild =>
      have hc : c ∈ n.typeMembers := by simp [hone]
      rw [ih c (mem_children_of_typeMembers hc) hchild hheight]
      simp only [hform, hone, List.map_cons, List.map_nil]
      exact (String.intercalate_singleton ..).symm
    | simple hform =>
      rw [Child.height] at hheight
      simp only [hform, Child.typeText, typeText_simpleType_eq_flatWord n (hroom hheight)]
    | other line hform =>
      rw [Child.height] at hheight
      simp only [hform, Child.typeText, Node.typeText, if_neg (Nat.not_le.mpr (hroom hheight))]
      rfl

/-- Lower a type and write what comes out: if no path in it has more nodes than are written, this is the text of the
concrete node. It stays the same if some lists of one type are kept and not replaced by that type, as long as that does
not make the type too deep. -/
theorem typeText_typeTree_eq_flat (t : Cst) (h : t.typeTree.height ≤ 64) :
    t.typeTree.typeText 0 = t.flat ∧
    ∀ kept, LowersTo t kept → kept.height ≤ 64 → kept.typeText 0 = t.typeTree.typeText 0 := by
  have htext {child : Child} (hchild : LowersTo t child) (hheight : child.height ≤ 64) : child.typeText 0 = t.flat := by
    apply hchild.typeText_eq_flat
    rw [Nat.zero_add]
    exact hheight
  refine ⟨htext (lowersTo_typeTree t) h, ?_⟩
  intro kept hkept hheight
  rw [htext hkept hheight, htext (lowersTo_typeTree t) h]

def typeWord (type text : String) : Cst :=
  .node ⟨type, none, 0, text.toUTF8, true, false, false⟩ []

def typeConstruct (type : String) (children : List Cst) : Cst :=
  .node ⟨type, none, 0, .empty, true, false, false⟩ children

/-- A union with a comment, with a list of one built-in type and with an optional name. -/
def wrapped : Cst :=
  typeConstruct "union_type" [typeConstruct "type_list" [typeWord "primitive_type" " NULL"], typeConstruct "comment" [],
    typeConstruct "optional_type" [typeWord "name" "\\A"]]

/-- The lowered union with its list of one type. -/
def wrappedKept : Child :=
  .node (.list .unionType
    [.node (.list .unionType [.node (.mk .type 1 1 [])] 1),
      .node (.mk .nullableType 0 1 [(.named "type", .node (.mk .name 0 1 [(.named "name", .text "A")]))])] 1)

private theorem lowersTo_wrappedKept : LowersTo wrapped wrappedKept := by
  have hnull : LowersTo (typeWord "primitive_type" " NULL") (.node (.mk .type 1 1 [])) := .simple rfl
  have hname : LowersTo (typeWord "name" "\\A") (.node (.mk .name 0 1 [(.named "name", .text "A")])) := .simple rfl
  have hlist : LowersTo (typeConstruct "type_list" [typeWord "primitive_type" " NULL"])
      (.node (.list .unionType [.node (.mk .type 1 1 [])] 1)) := .joined 1 rfl (.cons hnull .nil)
  have hoptional : LowersTo (typeConstruct "optional_type" [typeWord "name" "\\A"])
      (.node (.mk .nullableType 0 1 [(.named "type", .node (.mk .name 0 1 [(.named "name", .text "A")]))])) :=
    .nullable 1 rfl rfl hname
  exact .joined 1 rfl (.cons hlist (.cons hoptional .nil))

theorem wrapped_typeText :
    wrapped.typeTree.height ≤ 64 ∧ wrapped.typeTree.typeText 0 = "null|?A" ∧ LowersTo wrapped wrappedKept ∧
      wrappedKept.height ≤ 64 ∧ wrappedKept.typeText 0 = "null|?A" := by
  have hheight : wrapped.typeTree.height ≤ 64 := by decide
  have hkept : wrappedKept.height ≤ 64 := by decide
  have hflat : wrapped.flat = "null|?A" := by decide
  obtain ⟨htext, hsame⟩ := typeText_typeTree_eq_flat wrapped hheight
  refine ⟨hheight, htext.trans hflat, lowersTo_wrappedKept, hkept, ?_⟩
  exact (hsame wrappedKept lowersTo_wrappedKept hkept).trans (htext.trans hflat)

end ClassOutline.Cst
