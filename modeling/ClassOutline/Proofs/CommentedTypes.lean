import ClassOutline.Proofs.FlatTypes
import ClassOutline.Proofs.RelatedLists

/-!
# Comments inside types

Comments that are put between the parts of a type do not change its text, as long as none of them is put in front of
the first part of an optional type. There the comment is taken for the part, and the type is one that cannot be named.
-/
namespace ClassOutline.Cst

open Syntax

structure IsComment (c : Cst) : Prop where
  type : c.type = "comment"
  named : c.head.named = true

/-- Comments are put into a list of nodes. -/
inductive Inserted : List Cst → List Cst → Prop
  | nil : Inserted [] []
  | keep (c : Cst) {cs cs' : List Cst} (h : Inserted cs cs') : Inserted (c :: cs) (c :: cs')
  | comment {c : Cst} {cs cs' : List Cst} (hc : c.IsComment) (h : Inserted cs cs') : Inserted cs (c :: cs')

namespace Inserted

variable {cs cs' : List Cst}

private theorem filter_eq (h : Inserted cs cs') :
    ((cs'.filter (·.head.named)).filter fun c => c.type != "comment") =
      (cs.filter (·.head.named)).filter fun c => c.type != "comment" := by
  rw [List.filter_filter, List.filter_filter]
  induction h with
  | nil => rfl
  | keep c _ ih => rw [List.filter_cons, List.filter_cons, ih]
  | comment hc _ ih => rw [List.filter_cons_of_neg (by simp [hc.type]), ih]

private theorem find?_cases (h : Inserted cs cs') :
    cs'.find? (·.head.named) = cs.find? (·.head.named) ∨ ∃ c, cs'.find? (·.head.named) = some c ∧ c.IsComment := by
  induction h with
  | nil => exact .inl rfl
  | keep c _ ih =>
    rw [List.find?_cons, List.find?_cons]
    cases c.head.named with
    | true => exact .inl rfl
    | false => exact ih
  | comment hc _ _ =>
    refine .inr ⟨_, ?_, hc⟩
    rw [List.find?_cons, hc.named]

end Inserted

/-- Nodes that say the same about themselves, but for the place where they stand. -/
structure SameNode (t t' : Cst) : Prop where
  type : t.type = t'.type
  named : t.head.named = t'.head.named
  chars : t.chars = t'.chars

/-- A tree in which comments are put between the parts of types. In front of the first part of an optional type they
are put only if that type is one of `fronted`. -/
inductive WithComments (fronted : Cst → Prop) : Cst → Cst → Prop
  | word {t t' : Cst} (hhead : SameNode t t')
      (hform : TypeForm.of t.type = .simple ∨ TypeForm.of t.type = .other)
      (hchildren : List.Forall₂ (WithComments fronted) t.children t'.children) : WithComments fronted t t'
  | joined {t t' : Cst} {kept : List Cst} {kind : Kind} (hhead : SameNode t t')
      (hform : TypeForm.of t.type = .joined kind) (hkept : List.Forall₂ (WithComments fronted) t.children kept)
      (hput : Inserted kept t'.children) : WithComments fronted t t'
  | optional {t t' : Cst} {kept : List Cst} (hhead : SameNode t t')
      (hform : TypeForm.of t.type = .optional) (hkept : List.Forall₂ (WithComments fronted) t.children kept)
      (hput : Inserted kept t'.children)
      (hfirst : fronted t ∨ t'.children.find? (·.head.named) = kept.find? (·.head.named)) : WithComments fronted t t'

/-- An optional type that is written as one that cannot be named. -/
def WrittenUnknown (t : Cst) : Prop :=
  ∀ above < 64, t.typeTree.typeText above = "?unknown"

private theorem typeText_optional {t : Cst} (hform : TypeForm.of t.type = .optional) (above : Nat) :
    t.typeTree.typeText above =
      if 64 ≤ above then "unknown"
      else "?" ++ ((t.children.find? (·.head.named)).map fun c => c.typeTree.typeText (above + 1)).getD "unknown" := by
  rw [typeTree_eq, hform, ← List.head?_filter]
  simp only [Child.typeText, Node.typeText, Child.typeTextIn, BEq.rfl, if_true, typeText_typeTree?]
  rfl

theorem IsComment.typeText {c : Cst} (h : c.IsComment) (above : Nat) : c.typeTree.typeText above = "unknown" := by
  have hform : TypeForm.of c.type = .other := by
    rw [h.type]
    rfl
  rw [typeTree_eq, hform]
  exact ite_self _

namespace WithComments

variable {fronted : Cst → Prop} {t t' : Cst}

private theorem sameNode (h : WithComments fronted t t') : SameNode t t' := by
  cases h <;> assumption

theorem clauseName (h : SameNode t t') (hchildren : List.Forall₂ (WithComments fronted) t.children t'.children) :
    t.clauseName = t'.clauseName := by
  have hnamed : List.Forall₂ (WithComments fronted) t.named t'.named :=
    forall₂_filter (fun _ _ hxy => hxy.sameNode.named) hchildren
  have hinner : t.named.head?.map Cst.chars = t'.named.head?.map Cst.chars :=
    map_eq_of_rel (rel_head? hnamed) fun _ _ _ hxy => hxy.sameNode.chars
  rw [clauseName_eq, clauseName_eq, h.type, h.chars, hinner]

/-- A comment in front of the part of an optional type is a type that cannot be named. -/
theorem typeText_of_comment (h : SameNode t t') (hform : TypeForm.of t.type = .optional) {c : Cst}
    (hfirst : t'.children.find? (·.head.named) = some c) (hc : c.IsComment) : WrittenUnknown t' := by
  intro above habove
  rw [h.type] at hform
  rw [typeText_optional hform, if_neg (Nat.not_le.mpr habove), hfirst, Option.map_some, Option.getD_some, hc.typeText]
  rfl

private theorem typeText_eq (hfronted : ∀ n, fronted n → WrittenUnknown n) (h : WithComments fronted t t')
    (above : Nat) :
    t.typeTree.typeText above = t'.typeTree.typeText above := by
  induction t using children_induction generalizing t' above with
  | step t ih =>
    cases h with
    | word hsame hform hchildren =>
      rw [typeTree_eq t, typeTree_eq t', ← hsame.type]
      rcases hform with hform | hform
      · simp only [hform, Child.typeText, typeText_simpleType, hsame.chars, clauseName hsame hchildren]
      · simp only [hform, Child.typeText, Node.typeText]
    | joined hsame hform hkept hput =>
      obtain ⟨separator, hseparator⟩ := TypeForm.separator_of_joined hform
      have hmembers := forall₂_filter (p := fun c => c.type != "comment") (q := fun c => c.type != "comment")
        (fun _ _ hxy => by rw [hxy.sameNode.type]) (forall₂_filter (fun _ _ hxy => hxy.sameNode.named) hkept)
      rw [typeTree_eq t, typeTree_eq t', ← hsame.type, hform]
      dsimp only
      rw [typeText_typeList hseparator, typeText_typeList hseparator, List.map_map, List.map_map, named, named,
        hput.filter_eq]
      congr 1
      apply map_eq_of_forall₂ hmembers
      intro c hc d hcd
      funext above
      exact ih c (List.mem_of_mem_filter (List.mem_of_mem_filter hc)) hcd above
    | @optional _ _ kept hsame hform hkept hput hfirst =>
      have hform' : TypeForm.of t'.type = .optional := by rwa [← hsame.type]
      by_cases habove : 64 ≤ above
      · rw [typeText_optional hform, typeText_optional hform', if_pos habove, if_pos habove]
      -- If no comment stands in front, both types have the same first part, up to comments inside of it.
      have hpart : t'.children.find? (·.head.named) = kept.find? (·.head.named) →
          t.typeTree.typeText above = t'.typeTree.typeText above := by
        intro hequal
        rw [typeText_optional hform, typeText_optional hform', if_neg habove, if_neg habove, hequal]
        congr 2
        apply map_eq_of_rel (rel_find? (fun _ _ hxy => hxy.sameNode.named) hkept)
        intro c hc d hcd
        exact ih c (List.mem_of_find?_eq_some hc) hcd (above + 1)
      rcases hfirst with hfront | hequal
      · rcases hput.find?_cases with hequal | ⟨c, hc, hcomment⟩
        · exact hpart hequal
        · have hbelow := Nat.not_le.mp habove
          rw [hfronted t hfront above hbelow, typeText_of_comment hsame hform hc hcomment above hbelow]
      · exact hpart hequal

end WithComments

/-- Comments inside a type do not change its text, if those in front of the first part of an optional type are put only
where that type is written as unknown anyway. An optional type with a comment in front is always written so. -/
theorem comments_keep_type_unless_in_front {fronted : Cst → Prop} {t t' : Cst} (h : WithComments fronted t t') :
    ((∀ n, fronted n → WrittenUnknown n) → t'.typeTree.typeText 0 = t.typeTree.typeText 0) ∧
    (TypeForm.of t.type = .optional → ∀ c, t'.children.find? (·.head.named) = some c → c.IsComment →
      WrittenUnknown t') := by
  constructor
  · intro hfronted
    exact (h.typeText_eq hfronted 0).symm
  · intro hform c hfirst hc
    exact WithComments.typeText_of_comment h.sameNode hform hfirst hc

def someComment : Cst := typeConstruct "comment" []

/-- An optional built-in type, with these comments before and behind its part. -/
def optionalInt (before behind : List Cst) : Cst :=
  typeConstruct "optional_type" (before ++ [typeWord "primitive_type" "int"] ++ behind)

private theorem isComment_someComment : someComment.IsComment :=
  ⟨rfl, rfl⟩

private theorem withComments_int (fronted : Cst → Prop) :
    WithComments fronted (typeWord "primitive_type" "int") (typeWord "primitive_type" "int") :=
  .word ⟨rfl, rfl, rfl⟩ (.inl rfl) .nil

private theorem withComments_behind :
    WithComments (fun _ => False) (typeConstruct "union_type" [optionalInt [] [], typeWord "name" "A"])
      (typeConstruct "union_type" [someComment, optionalInt [] [someComment], someComment, typeWord "name" "A"]) := by
  have hoptional : WithComments (fun _ => False) (optionalInt [] []) (optionalInt [] [someComment]) :=
    .optional ⟨rfl, rfl, rfl⟩ rfl (.cons (withComments_int _) .nil) (.keep _ (.comment isComment_someComment .nil))
      (.inr rfl)
  have hname : WithComments (fun _ => False) (typeWord "name" "A") (typeWord "name" "A") :=
    .word ⟨rfl, rfl, rfl⟩ (.inl rfl) .nil
  refine .joined ⟨rfl, rfl, rfl⟩ rfl (.cons hoptional (.cons hname .nil)) ?_
  exact .comment isComment_someComment (.keep _ (.comment isComment_someComment (.keep _ .nil)))

private theorem withComments_front : WithComments (fun _ => True) (optionalInt [] []) (optionalInt [someComment] []) :=
  .optional ⟨rfl, rfl, rfl⟩ rfl (.cons (withComments_int _) .nil) (.comment isComment_someComment (.keep _ .nil))
    (.inl trivial)

theorem commented_typeText :
    (typeConstruct "union_type" [someComment, optionalInt [] [someComment], someComment,
      typeWord "name" "A"]).typeTree.typeText 0 = "?int|A" ∧
    (optionalInt [] []).typeTree.typeText 0 = "?int" ∧ (optionalInt [someComment] []).typeTree.typeText 0 = "?unknown" := by
  refine ⟨?_, by decide, ?_⟩
  · rw [(comments_keep_type_unless_in_front withComments_behind).1 fun _ h => h.elim]
    decide
  · exact (comments_keep_type_unless_in_front withComments_front).2 rfl someComment rfl isComment_someComment 0 (by decide)

end ClassOutline.Cst
