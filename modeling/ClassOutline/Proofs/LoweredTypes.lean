import ClassOutline.Proofs.SearchedRegion

/-!
# Lowered types

The lowered form of a type expression by the form of its concrete node, and the text of what a list of types becomes.
-/
namespace ClassOutline.Syntax

theorem Child.typeTexts_eq_map (above : Nat) (cs : List (Slot × Child)) :
    Child.typeTexts above cs = cs.map fun x => x.2.typeText above := by
  induction cs with
  | nil => rfl
  | cons x cs ih =>
    obtain ⟨slot, c⟩ := x
    rw [Child.typeTexts, ih]
    rfl

theorem Node.map_snd_indexed (i : Nat) (cs : List Child) : (Node.indexed i cs).map Prod.snd = cs := by
  induction cs generalizing i with
  | nil => rfl
  | cons c cs ih => rw [Node.indexed, List.map_cons, ih]

/-- What stands between the members of a type with several members. -/
def Kind.typeSeparator? : Kind → Option String
  | .unionType => some "|"
  | .intersectionType => some "&"
  | _ => none

theorem Node.typeText_list {kind : Kind} {separator : String} (h : kind.typeSeparator? = some separator)
    (members : List Child) (line : Int) (above : Nat) :
    (Node.list kind members line).typeText above =
      if maxTypeDepth ≤ above then unknownType
      else joinTypes separator (members.map (Child.typeText (above + 1))) := by
  have htexts : Child.typeTexts (above + 1) (Node.indexed 0 members) = members.map (Child.typeText (above + 1)) := by
    calc Child.typeTexts (above + 1) (Node.indexed 0 members)
      _ = ((Node.indexed 0 members).map Prod.snd).map (Child.typeText (above + 1)) := by
        rw [Child.typeTexts_eq_map, List.map_map]
        rfl
      _ = members.map (Child.typeText (above + 1)) := by rw [Node.map_snd_indexed]
  cases kind <;> simp_all [Kind.typeSeparator?, Node.list, Node.typeText]

end ClassOutline.Syntax

namespace ClassOutline.Cst

open Syntax

private theorem firstType_eq (cs : List Cst) : firstType cs = typeTree? (cs.find? (·.head.named)) := by
  induction cs with
  | nil => rfl
  | cons c cs ih =>
    rw [firstType, List.find?_cons, ih]
    cases c.head.named <;> rfl

private theorem memberTypes_eq (cs : List Cst) :
    memberTypes cs = (cs.filter fun c => c.head.named && c.head.type != "comment").map typeTree := by
  induction cs with
  | nil => rfl
  | cons c cs ih =>
    rw [memberTypes, List.filter_cons, ih]
    split <;> rfl

/-- The forms of nodes where a type is expected. -/
inductive TypeForm where
  | optional
  | joined (kind : Kind)
  | simple
  | other

def TypeForm.of : String → TypeForm
  | "optional_type" => optional
  | "union_type" => joined .unionType
  | "disjunctive_normal_form_type" => joined .unionType
  | "type_list" => joined .unionType
  | "intersection_type" => joined .intersectionType
  | "primitive_type" => simple
  | "bottom_type" => simple
  | "named_type" => simple
  | "name" => simple
  | "qualified_name" => simple
  | _ => other

theorem typeTree_eq (n : Cst) : n.typeTree =
    match TypeForm.of n.type with
    | .optional => .node (.mk .nullableType 0 n.line [(.named "type", typeTree? n.named.head?)])
    | .joined kind => typeList kind n.line ((n.named.filter fun c => c.type != "comment").map typeTree)
    | .simple => .node n.simpleType
    | .other => .node (.mk .other 0 n.line []) := by
  obtain ⟨head, children⟩ := n
  have hfirst : firstType children = typeTree? (Cst.node head children).named.head? := by
    rw [firstType_eq, named, List.head?_filter]
    rfl
  have hmembers : memberTypes children =
      ((Cst.node head children).named.filter fun c => c.type != "comment").map typeTree := by
    rw [memberTypes_eq, named, List.filter_filter]
    simp only [Bool.and_comm]
    rfl
  rw [typeTree, hfirst, hmembers]
  unfold TypeForm.of type Cst.head
  dsimp only
  split <;> simp_all <;> rfl

theorem TypeForm.separator_of_joined {type : String} {kind : Kind} (h : TypeForm.of type = .joined kind) :
    ∃ separator, kind.typeSeparator? = some separator := by
  unfold TypeForm.of at h
  split at h <;> cases h <;> exact ⟨_, rfl⟩

/-! ### Texts -/

/-- The text of a list of types by the texts of its members, each of them a function of how many nodes are above. -/
def joinedText (separator : String) (above : Nat) : List (Nat → String) → String
  | [text] => text above
  | texts =>
    if maxTypeDepth ≤ above then unknownType else joinTypes separator (texts.map fun text => text (above + 1))

theorem typeText_typeList {kind : Kind} {separator : String} (h : kind.typeSeparator? = some separator) (line : Nat)
    (members : List Child) (above : Nat) :
    (typeList kind line members).typeText above =
      joinedText separator above (members.map fun m above => m.typeText above) := by
  match members with
  | [] => exact Node.typeText_list h [] line above
  | [m] => rfl
  | m :: m' :: rest =>
    rw [joinedText, List.map_map]
    · exact Node.typeText_list h (m :: m' :: rest) line above
    · simp

theorem typeText_typeTree? (part : Option Cst) (above : Nat) :
    (typeTree? part).typeText above = (part.map fun n => n.typeTree.typeText above).getD unknownType := by
  cases part <;> rfl

theorem clauseName_eq (c : Cst) : c.clauseName = String.ofList (dropLeading '\\'
    (if c.type == "named_type" then (c.named.head?.map chars).getD c.chars else c.chars)) := by
  rw [clauseName, Option.getD_map]
  split <;> rfl

theorem typeText_simpleType (n : Cst) (above : Nat) : n.simpleType.typeText above =
    if maxTypeDepth ≤ above then unknownType
    else match TypeKeyword.ofKeyword? (String.ofList (Text.lower (Text.trim n.chars))) with
      | some keyword => flagName keyword.flag
      | none => n.clauseName := by
  cases hkeyword : TypeKeyword.ofKeyword? (String.ofList (Text.lower (Text.trim n.chars))) with
  | some keyword => simp only [simpleType, hkeyword, Node.typeText]
  | none =>
    simp only [simpleType, hkeyword]
    rfl

end ClassOutline.Cst
