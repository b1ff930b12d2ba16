import ClassOutline.Proofs.LoweredGrammar
import ClassOutline.Proofs.MemberOrder
import Mathlib.Data.Int.Bitwise
import Mathlib.Data.List.Infix

/-!
# What the public filter leaves out

The outline of the public members is the outline of all members without the entries of the groups and methods that are
not public or are abstract. A member is left out for its own flags only, wherever it stands.
-/
namespace ClassOutline.Syntax

private theorem bitAt_eq_testBit (flags : Int) (place : Nat) : bitAt flags place = flags.testBit place := by
  cases flags with
  | ofNat m => exact Cst.bitAt_natCast m place
  | negSucc m =>
    have hshift : Int.negSucc m >>> place = Int.negSucc (m >>> place) := rfl
    rw [bitAt, hshift, Int.testBit, Nat.testBit_eq_decide_div_mod_eq, ← Nat.shiftRight_eq_div_pow, beq_eq_decide,
      ← decide_not]
    generalize m >>> place = k
    rw [decide_eq_decide, Int.negSucc_eq]
    omega

/-- The trees below a node stand together in the pre-order. -/
theorem Node.preorder_infix {n root : Node} (h : n ∈ root.preorder) : n.preorder <:+: root.preorder := by
  induction root using Node.subnodes_induction with
  | step root ih =>
    rcases Node.mem_preorder_iff.mp h with rfl | ⟨c, hc, hn⟩
    · exact List.infix_rfl
    · have hchild : c.preorder <:+: root.subnodes.flatMap Node.preorder := List.infix_flatMap_of_mem hc _
      have hbelow : root.subnodes.flatMap Node.preorder <:+: root.preorder := by
        rw [Node.preorder_eq_cons, ← Node.flatMap_subnodes]
        exact (List.suffix_cons _ _).isInfix
      exact (ih c hc hn).trans (hchild.trans hbelow)

end ClassOutline.Syntax

namespace ClassOutline.Outline

open Syntax

/-- Bit 0 is set and bit 6 is not: a public member that is not abstract. -/
def isShown (flags : Int) : Bool :=
  flags.testBit 0 && !flags.testBit 6

private theorem visibility_eq_isPublic_iff (flags : Int) :
    (Modifiers.ofFlags flags).visibility = .isPublic ↔ flags.testBit 0 = true := by
  rw [← bitAt_eq_testBit]
  cases hpublic : bitAt flags 0 with
  | true => simp [Modifiers.ofFlags, Modifier.place, hpublic]
  | false =>
    by_cases hprotected : bitAt flags 1 = true <;> simp [Modifiers.ofFlags, Modifier.place, hpublic, hprotected]

private theorem allows_publicOnly (flags : Int) : Filter.publicOnly.allows (.ofFlags flags) = isShown flags := by
  have habstract : (Modifiers.ofFlags flags).isAbstract = flags.testBit 6 := bitAt_eq_testBit flags 6
  rw [Filter.allows, habstract, isShown, Bool.eq_iff_iff]
  simp [visibility_eq_isPublic_iff]

/-- What the nodes of a tree contribute, in pre-order, each entry with the node that it comes from. -/
def contributions {α : Type} (own : Node → List α) (decl : Node) : List (Node × α) :=
  decl.preorder.flatMap fun n => (own n).map (n, ·)

private theorem map_snd_contributions {α : Type} (own : Node → List α) (decl : Node) :
    (contributions own decl).map Prod.snd = decl.preorder.flatMap own := by
  simp [contributions, List.map_flatMap, Function.comp_def]

private theorem mem_contributions_iff {α : Type} {own : Node → List α} {decl : Node} {x : Node × α} :
    x ∈ contributions own decl ↔ x.1 ∈ decl.preorder ∧ x.2 ∈ own x.1 := by
  obtain ⟨n, e⟩ := x
  simp [contributions]

/-- How a list of public members comes from the list of all members, by the nodes that contribute to it. -/
structure LeavesOut {α : Type} (visibility : α → Visibility) (own : Node → List α)
    (entries : Filter → Node → List α) (decl : Node) : Prop where
  all : entries .all decl = (contributions own decl).map Prod.snd
  shown : entries .publicOnly decl = ((contributions own decl).filter fun x => isShown x.1.flags).map Prod.snd
  sublist : (entries .publicOnly decl).Sublist (entries .all decl)
  isPublic : ∀ e ∈ entries .publicOnly decl, visibility e = .isPublic
  isAbstract : ∀ x ∈ contributions own decl, visibility x.2 = .isPublic → isShown x.1.flags = false →
    x.1.flags.testBit 6 = true
  nested : ∀ outer ∈ decl.preorder, isShown outer.flags = false →
    outer.subnodes.flatMap (entries .publicOnly) <:+: entries .publicOnly decl

section LeavesOut

variable {α : Type} {visibility : α → Visibility} {own : Filter → Node → List α}

private theorem flatMap_shown (hown : ∀ n, own .publicOnly n = if isShown n.flags then own .all n else [])
    (decl : Node) :
    decl.nodes.flatMap (own .publicOnly) =
      ((contributions (own .all) decl).filter fun x => isShown x.1.flags).map Prod.snd := by
  rw [Node.nodes_eq_preorder, contributions, List.filter_flatMap, List.map_flatMap]
  apply List.flatMap_congr
  intro n _
  rw [hown]
  cases hshown : isShown n.flags <;> simp [List.filter_map, Function.comp_def, hshown]

/-- Entries are left out as they should be if each node contributes all or nothing, by its flags, and gives its
entries its own visibility. -/
theorem leavesOut_of_own (hown : ∀ n, own .publicOnly n = if isShown n.flags then own .all n else [])
    (hvisibility : ∀ n, ∀ e ∈ own .all n, visibility e = n.modifiers.visibility) (decl : Node) :
    LeavesOut visibility (own .all) (fun filter n => n.nodes.flatMap (own filter)) decl := by
  have hall : decl.nodes.flatMap (own .all) = (contributions (own .all) decl).map Prod.snd := by
    rw [map_snd_contributions, Node.nodes_eq_preorder]
  refine ⟨hall, flatMap_shown hown decl, ?_, ?_, ?_, ?_⟩
  · rw [hall, flatMap_shown hown]
    exact List.filter_sublist.map _
  · intro e he
    rw [flatMap_shown hown] at he
    obtain ⟨x, hx, rfl⟩ := List.mem_map.mp he
    obtain ⟨hmem, hshown⟩ := List.mem_filter.mp hx
    rw [hvisibility x.1 x.2 (mem_contributions_iff.mp hmem).2, Node.modifiers, visibility_eq_isPublic_iff]
    exact (Bool.and_eq_true_iff.mp hshown).1
  · intro x hx hpublic hhidden
    rw [hvisibility x.1 x.2 (mem_contributions_iff.mp hx).2, Node.modifiers, visibility_eq_isPublic_iff] at hpublic
    simpa [isShown, hpublic] using hhidden
  · intro outer houter hhidden
    have hinside : outer.nodes.flatMap (own .publicOnly) =
        outer.subnodes.flatMap fun c => c.nodes.flatMap (own .publicOnly) := by
      rw [flatMap_nodes_eq, hown, hhidden]
      rfl
    rw [← hinside, Node.nodes_eq_preorder, Node.nodes_eq_preorder]
    exact (Node.preorder_infix houter).flatMap _

end LeavesOut

private theorem own_publicOnly {α : Type} (p : Prop) [Decidable p] (n : Node) (entries : List α) :
    (if p ∧ Filter.publicOnly.allows n.modifiers then entries else []) =
      if isShown n.flags then (if p ∧ Filter.all.allows n.modifiers then entries else []) else [] := by
  rw [Node.modifiers, allows_publicOnly]
  cases isShown n.flags <;> simp [Filter.allows]

private theorem visibility_of_mem_ownProperties {filter : Filter} {n : Node} {e : PropertyEntry}
    (h : e ∈ ownProperties filter n) : e.visibility = n.modifiers.visibility := by
  rw [ownProperties] at h
  split at h
  · rw [groupEntries] at h
    split at h
    · obtain ⟨name, _, rfl⟩ := List.mem_map.mp h
      rfl
    · exact absurd h List.not_mem_nil
  · exact absurd h List.not_mem_nil

private theorem visibility_of_mem_ownMethods {filter : Filter} {n : Node} {e : MethodEntry}
    (h : e ∈ ownMethods filter n) : e.visibility = n.modifiers.visibility := by
  rw [ownMethods] at h
  split at h
  · rw [List.mem_singleton.mp h, methodEntry]
  · exact absurd h List.not_mem_nil

private theorem ofTree_eq_none_iff (filter : Filter) (tree : Child) :
    ofTree filter tree = none ↔ tree.firstClass? = none :=
  Option.map_eq_none_iff

/-- The public outline of a declaration has the name and the interfaces of the full one, and of its members all but
those whose own flags are not public or are abstract. Whether there is an outline does not depend on the filter. -/
theorem public_outline_leaves_out (decl : Node) :
    (summarize .publicOnly decl).name = (summarize .all decl).name ∧
    (summarize .publicOnly decl).interfaces = (summarize .all decl).interfaces ∧
    LeavesOut PropertyEntry.visibility (ownProperties .all) (fun filter n => (summarize filter n).properties) decl ∧
    LeavesOut MethodEntry.visibility (ownMethods .all) (fun filter n => (summarize filter n).methods) decl ∧
    ∀ tree : Child, ofTree .publicOnly tree = none ↔ ofTree .all tree = none := by
  refine ⟨rfl, rfl, ?_, ?_, ?_⟩
  · exact leavesOut_of_own (fun n => own_publicOnly _ n _) (fun _ _ => visibility_of_mem_ownProperties) decl
  · exact leavesOut_of_own (fun n => own_publicOnly _ n _) (fun _ _ => visibility_of_mem_ownMethods) decl
  · intro tree
    rw [ofTree_eq_none_iff, ofTree_eq_none_iff]

end ClassOutline.Outline
