import ClassOutline.Proofs.FlatTypes
import ClassOutline.Proofs.RelatedLists
import ClassOutline.Syntax.TypeGraph
import Mathlib.Logic.Relation

/-!
# The texts of type graphs

A graph stands for the tree that comes from following it downwards. Its text is the text of that tree, where a node
that has 64 nodes above it, or itself, is replaced by the word for an unknown type. Nodes that are shared are written
as often as they are met.
-/
namespace ClassOutline.Syntax

/-! ### Texts of trees of any depth -/

mutual

/-- The text of a type node, however deep it is. -/
def Node.plainText : Node → String
  | .mk kind flags _ children =>
    match kind with
    | .type => flagName flags
    | .name =>
      match children.lookup (.named "name") with
      | some (.text s) => s
      | _ => unknownType
    | .nullableType => "?" ++ Child.plainTextIn (.named "type") children
    | .unionType => joinTypes "|" (Child.plainTexts children)
    | .intersectionType => joinTypes "&" (Child.plainTexts children)
    | _ => unknownType

def Child.plainText : Child → String
  | .node n => n.plainText
  | .text s => s
  | .number n => flagName n
  | .absent => unknownType
  | .foreign _ => unknownType

def Child.plainTextIn (slot : Slot) : List (Slot × Child) → String
  | [] => unknownType
  | (s, c) :: rest => if slot == s then c.plainText else Child.plainTextIn slot rest

def Child.plainTexts : List (Slot × Child) → List String
  | [] => []
  | (_, c) :: rest => c.plainText :: Child.plainTexts rest

end

private theorem Child.plainTexts_eq_map (cs : List (Slot × Child)) :
    Child.plainTexts cs = cs.map fun x => x.2.plainText := by
  induction cs with
  | nil => rfl
  | cons x cs ih => simp [Child.plainTexts, ih]

private theorem Child.plainTextIn_eq (slot : Slot) (cs : List (Slot × Child)) :
    Child.plainTextIn slot cs = ((cs.lookup slot).map Child.plainText).getD unknownType := by
  induction cs with
  | nil => rfl
  | cons x cs ih =>
    obtain ⟨s, c⟩ := x
    rw [Child.plainTextIn, List.lookup_cons, ih]
    cases slot == s <;> rfl

private theorem Child.typeTextIn_eq (above : Nat) (slot : Slot) (cs : List (Slot × Child)) :
    Child.typeTextIn above slot cs = ((cs.lookup slot).map (Child.typeText above)).getD unknownType := by
  induction cs with
  | nil => rfl
  | cons x cs ih =>
    obtain ⟨s, c⟩ := x
    rw [Child.typeTextIn, List.lookup_cons, ih]
    cases slot == s <;> rfl

private theorem Child.heights_le_iff {cs : List (Slot × Child)} {bound : Nat} :
    Child.heights cs ≤ bound ↔ ∀ x ∈ cs, x.2.height ≤ bound := by
  induction cs with
  | nil => simp [Child.heights]
  | cons x cs ih =>
    obtain ⟨slot, c⟩ := x
    rw [Child.heights, Nat.max_le, ih, List.forall_mem_cons]

/-- Where no path is too long the depth makes no difference. -/
theorem Node.typeText_eq_plainText (n : Node) {above : Nat} (h : above + n.height ≤ maxTypeDepth) :
    n.typeText above = n.plainText := by
  induction n using Node.subnodes_induction generalizing above with
  | step n ih =>
    obtain ⟨kind, flags, line, children⟩ := n
    rw [Node.height] at h
    have hroom : ¬maxTypeDepth ≤ above := by omega
    have hchild : ∀ x ∈ children, x.2.typeText (above + 1) = x.2.plainText := by
      rintro ⟨slot, c⟩ hx
      cases c with
      | node m =>
        have hm : m.height ≤ Child.heights children := Child.height_le_heights hx
        exact ih m (Node.mem_subnodes_iff.mpr ⟨_, hx, rfl⟩) (by omega)
      | _ => rfl
    have hslot : (children.lookup (.named "type")).map (Child.typeText (above + 1)) =
        (children.lookup (.named "type")).map Child.plainText := by
      apply Option.map_congr
      intro c hc
      obtain ⟨before, after, hchildren, _⟩ := List.lookup_eq_some_iff.mp hc
      exact hchild (.named "type", c) (by simp [hchildren])
    have hall : (children.map fun x => x.2.typeText (above + 1)) = children.map fun x => x.2.plainText :=
      List.map_congr_left hchild
    cases kind with
    | name =>
      simp only [Node.typeText, if_neg hroom]
      rfl
    | nullableType =>
      simp only [Node.typeText, Node.plainText, if_neg hroom, Child.typeTextIn_eq, Child.plainTextIn_eq, hslot]
    | _ => simp only [Node.typeText, Node.plainText, if_neg hroom, Child.typeTexts_eq_map, Child.plainTexts_eq_map, hall]

private theorem Child.typeText_eq_plainText (c : Child) {above : Nat} (h : above + c.height ≤ maxTypeDepth) :
    c.typeText above = c.plainText := by
  cases c with
  | node n => exact n.typeText_eq_plainText h
  | _ => rfl

/-! ### Following a graph -/

/-- The slots in which a type node has parts of its text. -/
def Kind.follows : Kind → Slot → Bool
  | .nullableType, slot => slot == .named "type"
  | .unionType, _ => true
  | .intersectionType, _ => true
  | _, _ => false

/-- A child that is not followed: nothing is seen of a node. -/
def GraphChild.withoutNode : GraphChild → GraphChild
  | .node _ => .other
  | c => c

/-- The children of a node, with nodes only where they are followed. -/
def GraphNode.parts (n : GraphNode) : List (Slot × GraphChild) :=
  n.children.map fun x => (x.1, if n.kind.follows x.1 then x.2 else x.2.withoutNode)

namespace TypeGraph

variable {g : TypeGraph} {v : GraphChild}

/-- The tree below some nodes. A node that has 64 nodes above it, or itself, is replaced by a word. -/
def unfold (g : TypeGraph) (above : List Nat) : GraphChild → Child
  | .text s => .text s
  | .number n => .number n
  | .other => .absent
  | .node id =>
    if _ : 64 ≤ above.length ∨ id ∈ above then .text "unknown"
    else match g.nodes[id]? with
      | none => .absent
      | some n => .node (.mk n.kind n.flags 0 (n.parts.map fun x => (x.1, g.unfold (id :: above) x.2)))
termination_by 64 - above.length
decreasing_by
  rename_i h
  rw [not_or, Nat.not_le] at h
  rw [List.length_cons]
  omega

private theorem unfold_of_cut {above : List Nat} {id : Nat} (h : 64 ≤ above.length ∨ id ∈ above) :
    g.unfold above (.node id) = .text "unknown" := by
  rw [unfold, dif_pos h]

private theorem unfold_of_none {above : List Nat} {id : Nat} (h : ¬(64 ≤ above.length ∨ id ∈ above))
    (hn : g.nodes[id]? = none) : g.unfold above (.node id) = .absent := by
  rw [unfold, dif_neg h, hn]

private theorem unfold_of_some {above : List Nat} {id : Nat} {n : GraphNode} (h : ¬(64 ≤ above.length ∨ id ∈ above))
    (hn : g.nodes[id]? = some n) :
    g.unfold above (.node id) =
      .node (.mk n.kind n.flags 0 (n.parts.map fun x => (x.1, g.unfold (id :: above) x.2))) := by
  rw [unfold, dif_neg h, hn]

private theorem lookup_parts (n : GraphNode) (f : GraphChild → Child) (slot : Slot) :
    (n.parts.map fun x => (x.1, f x.2)).lookup slot =
      (n.children.lookup slot).map fun c => f (if n.kind.follows slot then c else c.withoutNode) := by
  rw [GraphNode.parts]
  generalize n.kind = kind
  induction n.children with
  | nil => rfl
  | cons x xs ih =>
    obtain ⟨s, c⟩ := x
    simp only [List.map_cons, List.lookup_cons, ih]
    by_cases hs : slot = s
    · simp [hs]
    · rw [beq_false_of_ne hs]

/-- The text of a node of a graph by the texts of its parts. -/
def textBy (n : GraphNode) (text : GraphChild → String) : String :=
  match n.kind with
  | .type => flagName n.flags
  | .name =>
    match n.children.lookup (.named "name") with
    | some (.text s) => s
    | _ => unknownType
  | .nullableType => "?" ++ ((n.children.lookup (.named "type")).map text).getD unknownType
  | .unionType => joinTypes "|" (n.children.map fun c => text c.2)
  | .intersectionType => joinTypes "&" (n.children.map fun c => text c.2)
  | _ => unknownType

private theorem typeText_of_some {left id : Nat} {above : List Nat} {n : GraphNode} (hmem : id ∉ above)
    (hn : g.nodes[id]? = some n) :
    g.typeText (left + 1) above (.node id) = textBy n (g.typeText left (id :: above)) := by
  rw [typeText, if_neg (by simpa using hmem), hn]
  rfl

private theorem plainText_parts (n : GraphNode) (above : List Nat) :
    (Node.mk n.kind n.flags 0 (n.parts.map fun x => (x.1, g.unfold above x.2))).plainText =
      textBy n fun c => (g.unfold above c).plainText := by
  cases hkind : n.kind with
  | name =>
    simp only [Node.plainText, textBy, lookup_parts, hkind, Kind.follows, Bool.false_eq_true, if_false]
    cases n.children.lookup (.named "name") with
    | none => rfl
    | some c => cases c <;> simp [GraphChild.withoutNode, unfold]
  | nullableType =>
    simp only [Node.plainText, textBy, Child.plainTextIn_eq, lookup_parts, hkind, Kind.follows, BEq.rfl, if_true,
      Option.map_map, Function.comp_def]
  | unionType | intersectionType =>
    simp [Node.plainText, textBy, Child.plainTexts_eq_map, GraphNode.parts, hkind, Kind.follows, Function.comp_def]
  | _ => simp [Node.plainText, textBy, hkind]

private theorem typeText_eq_plainText_unfold {left : Nat} {above : List Nat} (h : left + above.length = 64)
    (c : GraphChild) :
    g.typeText left above c = (g.unfold above c).plainText := by
  -- On the nodes that may still follow: together with those above they are 64 all the time.
  induction left generalizing above c with
  | zero =>
    cases c with
    | node id =>
      rw [unfold_of_cut (.inl (by omega))]
      rfl
    | _ => simp [typeText, unfold, Child.plainText]
  | succ left ih =>
    cases c with
    | node id =>
      by_cases hmem : id ∈ above
      · rw [unfold_of_cut (.inr hmem), typeText, if_pos (by simpa using hmem)]
        rfl
      · have hcut : ¬(64 ≤ above.length ∨ id ∈ above) := by
          rw [not_or]
          exact ⟨by omega, hmem⟩
        cases hn : g.nodes[id]? with
        | none =>
          rw [unfold_of_none hcut hn, typeText, if_neg (by simpa using hmem), hn]
          rfl
        | some n =>
          have hbelow : g.typeText left (id :: above) = fun c => (g.unfold (id :: above) c).plainText := by
            funext c
            apply ih
            rw [List.length_cons]
            omega
          rw [unfold_of_some hcut hn, typeText_of_some hmem hn, Child.plainText, plainText_parts, hbelow]
    | _ => simp [typeText, unfold, Child.plainText]

private theorem height_unfold_le (above : List Nat) (c : GraphChild) :
    (g.unfold above c).height ≤ 64 - above.length := by
  fun_induction unfold g above c with
  | case6 above id h n hn ih =>
    rw [Child.height, Node.height]
    have hparts : Child.heights (n.parts.map fun x => (x.1, g.unfold (id :: above) x.2)) ≤
        64 - (id :: above).length := by
      rw [Child.heights_le_iff]
      intro x hx
      obtain ⟨y, _, rfl⟩ := List.mem_map.mp hx
      exact ih y
    rw [not_or, Nat.not_le] at h
    rw [List.length_cons] at hparts
    omega
  | _ => exact Nat.zero_le _

/-! ### Nodes that contain themselves -/

/-- A node has another one in a slot that is followed. -/
def Follows (g : TypeGraph) (a b : Nat) : Prop :=
  ∃ n, g.nodes[a]? = some n ∧ ∃ slot, (slot, .node b) ∈ n.parts

/-- A node is met below others, the nearest first, on a way down from `v`. -/
inductive Met (g : TypeGraph) (v : GraphChild) : List Nat → Nat → Prop
  | start {id : Nat} (h : v = .node id) : Met g v [] id
  | down {above : List Nat} {a b : Nat} (ha : Met g v above a) (hb : g.Follows a b) : Met g v (a :: above) b

private theorem Met.transGen {above : List Nat} {id : Nat} (h : g.Met v above id) :
    ∀ a ∈ above, Relation.TransGen g.Follows a id := by
  induction h with
  | start h =>
    intro a ha
    exact absurd ha List.not_mem_nil
  | down _ hb ih =>
    intro a ha
    rcases List.mem_cons.mp ha with rfl | ha
    · exact .single hb
    · exact .tail (ih a ha) hb

/-- The tree that a child of a graph stands for, if it is finite. -/
inductive Unfolding (g : TypeGraph) : GraphChild → Child → Prop
  | text (s : String) : Unfolding g (.text s) (.text s)
  | number (n : Int) : Unfolding g (.number n) (.number n)
  | other : Unfolding g .other .absent
  | dangling {id : Nat} (hn : g.nodes[id]? = none) : Unfolding g (.node id) .absent
  | node {id : Nat} {n : GraphNode} {trees : List Child} (hn : g.nodes[id]? = some n)
      (hparts : List.Forall₂ (Unfolding g) (n.parts.map Prod.snd) trees) :
      Unfolding g (.node id) (.node (.mk n.kind n.flags 0 ((n.parts.map Prod.fst).zip trees)))

private theorem unfolding_literal_iff {c : GraphChild} (hc : ∀ id, c ≠ .node id) (above : List Nat) (tree : Child) :
    g.Unfolding c tree ↔ tree = g.unfold above c := by
  cases c with
  | node id => exact absurd rfl (hc id)
  | _ =>
    constructor
    · intro h
      cases h
      rw [unfold]
    · rintro rfl
      rw [unfold]
      constructor

private theorem unfolding_some_iff {id : Nat} {n : GraphNode} (hn : g.nodes[id]? = some n) {f : GraphChild → Child}
    (hf : ∀ x ∈ n.parts, ∀ t, g.Unfolding x.2 t ↔ t = f x.2) (tree : Child) :
    g.Unfolding (.node id) tree ↔ tree = .node (.mk n.kind n.flags 0 (n.parts.map fun x => (x.1, f x.2))) := by
  have hzip : (n.parts.map fun x => (x.1, f x.2)) = (n.parts.map Prod.fst).zip (n.parts.map fun x => f x.2) :=
    (List.zip_map' ..).symm
  rw [hzip]
  constructor
  · intro h
    cases h with
    | dangling hnone => simp [hn] at hnone
    | @node _ n' trees hn' hparts =>
      obtain rfl : n = n' := by simpa [hn] using hn'
      rw [List.forall₂_map_left_iff] at hparts
      have htrees : (n.parts.map fun x => f x.2) = trees.map fun t => t :=
        map_eq_of_forall₂ hparts fun x hx t ht => ((hf x hx t).mp ht).symm
      rw [htrees, List.map_id']
  · rintro rfl
    refine .node hn ?_
    rw [List.forall₂_map_left_iff, List.forall₂_map_right_iff, List.forall₂_same]
    intro x hx
    exact (hf x hx _).mpr rfl

/-- In a graph without cycles, at most 64 nodes deep below `v`, nothing is replaced. -/
theorem unfolding_iff (hacyclic : ∀ id, ¬Relation.TransGen g.Follows id id)
    (hdepth : ∀ above id, g.Met v above id → above.length < 64) {left : Nat} {above : List Nat}
    (hleft : left + above.length = 64) {id : Nat} (hmet : g.Met v above id) (tree : Child) :
    g.Unfolding (.node id) tree ↔ tree = g.unfold above (.node id) := by
  induction left generalizing above id tree with
  | zero =>
    -- The graph is not deep enough for this.
    have hlt := hdepth above id hmet
    omega
  | succ left ih =>
    have hcut : ¬(64 ≤ above.length ∨ id ∈ above) := by
      rintro (hlong | hmem)
      · exact Nat.not_lt.mpr hlong (hdepth above id hmet)
      · exact hacyclic id (hmet.transGen id hmem)
    cases hn : g.nodes[id]? with
    | none =>
      rw [unfold_of_none hcut hn]
      constructor
      · intro h
        cases h with
        | dangling => rfl
        | node hsome => simp [hn] at hsome
      · rintro rfl
        exact .dangling hn
    | some n =>
      rw [unfold_of_some hcut hn]
      apply unfolding_some_iff hn
      rintro ⟨slot, c⟩ hx t
      cases c with
      | node b =>
        apply ih
        · rw [List.length_cons]
          omega
        · exact .down hmet ⟨n, hn, slot, hx⟩
      | _ => exact unfolding_literal_iff (by simp) _ t

/-- The text of a graph is the text of its tree, in which nodes that are too deep or below themselves are replaced; that
tree is at most 64 nodes deep, so that trees and graphs have their texts in common. Only a node that contains itself
is ever met below itself. In a graph without cycles that is not too deep nothing is replaced, and shared nodes are
written wherever they are met. -/
theorem render_eq_text_of_unfolding (g : TypeGraph) (v : GraphChild) :
    g.render v = (g.unfold [] v).plainText ∧
    (g.unfold [] v).height ≤ 64 ∧ g.render v = (g.unfold [] v).typeText 0 ∧
    (∀ above id, g.Met v above id → id ∈ above → Relation.TransGen g.Follows id id) ∧
    ((∀ id, ¬Relation.TransGen g.Follows id id) → (∀ above id, g.Met v above id → above.length < 64) →
      ∃ tree, (∀ t, g.Unfolding v t ↔ t = tree) ∧ g.render v = tree.plainText) := by
  have htext : g.render v = (g.unfold [] v).plainText := typeText_eq_plainText_unfold rfl v
  have hheight : (g.unfold [] v).height ≤ 64 := height_unfold_le [] v
  refine ⟨htext, hheight, ?_, ?_, ?_⟩
  · rw [htext, Child.typeText_eq_plainText]
    rw [Nat.zero_add]
    exact hheight
  · intro above id hmet hmem
    exact hmet.transGen id hmem
  · intro hacyclic hdepth
    refine ⟨g.unfold [] v, ?_, htext⟩
    intro t
    cases v with
    | node id => exact unfolding_iff hacyclic hdepth rfl (.start rfl) t
    | _ => exact unfolding_literal_iff (by simp) [] t

example :
    (⟨#[⟨.unionType, 0, [(.index 0, .node 0), (.index 1, .node 0), (.index 2, .number 4)]⟩]⟩ : TypeGraph).render (.node 0) =
      "unknown|unknown|int" := by
  decide

/-- A union that has the same optional name twice. -/
def sharedName : TypeGraph :=
  ⟨#[⟨.name, 0, [(.named "name", .text "A")]⟩, ⟨.nullableType, 0, [(.named "type", .node 0)]⟩,
    ⟨.unionType, 0, [(.index 0, .node 1), (.index 1, .node 1)]⟩]⟩

private theorem lt_of_follows {a b : Nat} (h : sharedName.Follows a b) : b < a := by
  obtain ⟨n, hn, slot, hmem⟩ := h
  rcases a with _ | _ | _ | a <;> simp [sharedName] at hn <;> subst hn <;>
    simp [GraphNode.parts, Kind.follows, GraphChild.withoutNode] at hmem <;> omega

private theorem length_add_le_of_met {above : List Nat} {id : Nat} (h : sharedName.Met (.node 2) above id) :
    above.length + id ≤ 2 := by
  induction h with
  | start h =>
    cases h
    exact Nat.le_refl 2
  | down _ hb ih =>
    have hlt := lt_of_follows hb
    rw [List.length_cons]
    omega

theorem sharedName_render :
    (∀ id, ¬Relation.TransGen sharedName.Follows id id) ∧
      (∀ above id, sharedName.Met (.node 2) above id → above.length < 64) ∧
      sharedName.render (.node 2) = "?A|?A" := by
  have hlt {a b : Nat} (h : Relation.TransGen sharedName.Follows a b) : b < a := by
    induction h with
    | single hb => exact lt_of_follows hb
    | tail _ hb ih => exact Nat.lt_trans (lt_of_follows hb) ih
  have hacyclic : ∀ id, ¬Relation.TransGen sharedName.Follows id id := fun id h => Nat.lt_irrefl id (hlt h)
  have hdepth : ∀ above id, sharedName.Met (.node 2) above id → above.length < 64 := by
    intro above id h
    have hle := length_add_le_of_met h
    omega
  refine ⟨hacyclic, hdepth, ?_⟩
  obtain ⟨_, _, _, _, hshared⟩ := render_eq_text_of_unfolding sharedName (.node 2)
  obtain ⟨tree, htree, htext⟩ := hshared hacyclic hdepth
  let name : Child := .node (.mk .name 0 0 [(.named "name", .text "A")])
  let optional : Child := .node (.mk .nullableType 0 0 [(.named "type", name)])
  have hname : sharedName.Unfolding (.node 0) name :=
    @Unfolding.node sharedName 0 ⟨.name, 0, [(.named "name", .text "A")]⟩ [.text "A"] rfl (.cons (.text "A") .nil)
  have hoptional : sharedName.Unfolding (.node 1) optional :=
    @Unfolding.node sharedName 1 ⟨.nullableType, 0, [(.named "type", .node 0)]⟩ [name] rfl (.cons hname .nil)
  have hunion : sharedName.Unfolding (.node 2) (.node (.mk .unionType 0 0 [(.index 0, optional), (.index 1, optional)])) :=
    @Unfolding.node sharedName 2 ⟨.unionType, 0, [(.index 0, .node 1), (.index 1, .node 1)]⟩ [optional, optional] rfl
      (.cons hoptional (.cons hoptional .nil))
  rw [htext, ← (htree _).mp hunion]
  rfl

end TypeGraph

end ClassOutline.Syntax
