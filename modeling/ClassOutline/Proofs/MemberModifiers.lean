import ClassOutline.Proofs.PublicMembers
import ClassOutline.Proofs.SearchedRegion
import Mathlib.Data.List.TakeWhile

/-!
# The modifiers of members

The flags of a member are collected from its children, one bit for each modifier, and read again where the member is
listed. Flags without a visibility are read as private, but a member without one is public, so what is read follows
from the modifiers that occur among the children. Their order does not matter, nor how often they occur.
-/
namespace ClassOutline.Syntax

private theorem Modifier.place_injective : Function.Injective Modifier.place := by
  intro a b h
  cases a <;> cases b <;> first | rfl | simp [place] at h

private theorem testBit_mask (m m' : Modifier) : m'.mask.testBit m.place = true ↔ m = m' := by
  rw [Modifier.mask, Nat.pow_eq, Nat.testBit_two_pow, decide_eq_true_eq, Modifier.place_injective.eq_iff, eq_comm]

/-- A bit is set in collected masks if it was set at the beginning or belongs to one of the modifiers. -/
theorem testBit_foldl_mask (ms : List Modifier) (start : Nat) (m : Modifier) :
    (ms.foldl (fun mask m => mask ||| m.mask) start).testBit m.place = true ↔
      start.testBit m.place = true ∨ m ∈ ms := by
  induction ms generalizing start with
  | nil => simp
  | cons m' ms ih =>
    simp only [List.foldl_cons, ih, Nat.testBit_or, Bool.or_eq_true, testBit_mask, List.mem_cons, or_assoc]

end ClassOutline.Syntax

namespace ClassOutline.Cst

open Syntax

/-! ### What the children say -/

/-- A visibility that reads a word: the text before the first bracket, without blanks around it and in lower case. -/
def Reads (word : String) (c : Cst) : Prop :=
  c.type = "visibility_modifier" ∧ ∃ keyword rest, c.chars = keyword ++ rest ∧ '(' ∉ keyword ∧
    (rest = [] ∨ rest.head? = some '(') ∧ String.ofList (Text.lower (Text.trim keyword)) = word

private theorem reads_iff {word : String} {c : Cst} :
    Reads word c ↔ c.type = "visibility_modifier" ∧ c.visibilityWord = word := by
  apply and_congr_right
  intro _
  constructor
  · rintro ⟨keyword, rest, hchars, hkeyword, hrest, rfl⟩
    have hbefore : ∀ x ∈ keyword, decide (x ≠ '(') = true := by
      intro x hx
      simpa using ne_of_mem_of_not_mem hx hkeyword
    have hafter : rest.takeWhile (· ≠ '(') = [] := by
      cases rest with
      | nil => rfl
      | cons x rest => simp_all
    rw [visibilityWord, hchars, List.takeWhile_append_of_pos hbefore, hafter, List.append_nil]
  · intro hword
    refine ⟨c.chars.takeWhile (· ≠ '('), c.chars.dropWhile (· ≠ '('), ?_, ?_, ?_, hword⟩
    · exact List.takeWhile_append_dropWhile.symm
    · intro hmem
      simpa using List.mem_takeWhile_imp hmem
    · cases hrest : c.chars.dropWhile (· ≠ '(') with
      | nil => exact .inl rfl
      | cons x rest =>
        have hx := List.head?_dropWhile_not (· ≠ '(') c.chars
        rw [hrest] at hx
        exact .inr (by simpa using hx)

/-- Which children give a member a modifier. -/
def Gives (c : Cst) : Modifier → Prop
  | .isPublic => c.type = "var_modifier" ∨ Reads "public" c
  | .isProtected => Reads "protected" c
  | .isPrivate => Reads "private" c
  | .isStatic => c.type = "static_modifier"
  | .isFinal => c.type = "final_modifier"
  | .isAbstract => c.type = "abstract_modifier"
  | .isReadonly => c.type = "readonly_modifier"

private theorem modifier?_eq_some_iff {c : Cst} {m : Modifier} : c.modifier? = some m ↔ c.Gives m := by
  unfold modifier?
  split
  · rename_i htype
    split <;> cases m <;> simp_all [Gives, reads_iff]
  all_goals cases m <;> simp_all [Gives, reads_iff]

/-- A child that a visibility is read from. -/
def IsVisibility (c : Cst) : Prop :=
  c.Gives .isPublic ∨ c.Gives .isProtected ∨ c.Gives .isPrivate

/-! ### The collected flags -/

private theorem testBit_modifierMask (children : List Cst) (m : Modifier) :
    (modifierMask children).testBit m.place = true ↔ ∃ c ∈ children, c.Gives m := by
  simp only [modifierMask, testBit_foldl_mask, Nat.zero_testBit, Bool.false_eq_true, false_or, List.mem_filterMap,
    modifier?_eq_some_iff]

private theorem and_visibilityMask_eq_zero_iff (mask : Nat) :
    mask &&& visibilityMask = 0 ↔ mask.testBit Modifier.isPublic.place = false ∧
      mask.testBit Modifier.isProtected.place = false ∧ mask.testBit Modifier.isPrivate.place = false := by
  have hmask : visibilityMask = 2 ^ 3 - 1 := rfl
  rw [hmask, Nat.and_two_pow_sub_one_eq_mod]
  simp only [Modifier.place, Nat.testBit_eq_decide_div_mod_eq, decide_eq_false_iff_not]
  omega

/-- The bits of a member's flags are those of its modifiers, and without a visibility the public one. -/
theorem bitAt_memberFlags (n : Cst) (m : Modifier) :
    bitAt n.memberFlags m.place = true ↔
      (∃ c ∈ n.children, c.Gives m) ∨ m = .isPublic ∧ ∀ c ∈ n.children, ¬ IsVisibility c := by
  have hnone : modifierMask n.children &&& visibilityMask = 0 ↔ ∀ c ∈ n.children, ¬ IsVisibility c := by
    simp only [and_visibilityMask_eq_zero_iff, ← Bool.not_eq_true, testBit_modifierMask, IsVisibility]
    grind
  unfold memberFlags
  dsimp only
  by_cases hmask : modifierMask n.children &&& visibilityMask = 0
  · simp only [if_pos hmask, bitAt_natCast, Nat.testBit_or, Bool.or_eq_true, testBit_modifierMask, testBit_mask]
    rw [and_iff_left (hnone.mp hmask)]
  · have hsome := hnone.not.mp hmask
    simp [hmask, bitAt_natCast, testBit_modifierMask, hsome]

/-! ### What is read from the flags -/

/-- A member is public if a child says so or if no child says anything about it. -/
def CountsAsPublic (children : List Cst) : Prop :=
  (∃ c ∈ children, c.type = "var_modifier" ∨ Reads "public" c) ∨ ¬ ∃ c ∈ children, IsVisibility c

/-- The modifiers that the children of a member stand for. -/
structure DecodedFrom (children : List Cst) (m : Modifiers) : Prop where
  isPublic : m.visibility = .isPublic ↔ CountsAsPublic children
  isProtected : m.visibility = .isProtected ↔
    ¬ CountsAsPublic children ∧ ∃ c ∈ children, Reads "protected" c
  isPrivate : m.visibility = .isPrivate ↔
    ¬ CountsAsPublic children ∧ ¬ ∃ c ∈ children, Reads "protected" c
  isAbstract : m.isAbstract = true ↔ ∃ c ∈ children, c.type = "abstract_modifier"

private theorem decodedFrom_memberFlags (n : Cst) : DecodedFrom n.children (.ofFlags n.memberFlags) := by
  have hpublic : bitAt n.memberFlags Modifier.isPublic.place = true ↔ CountsAsPublic n.children := by
    rw [bitAt_memberFlags]
    simp [CountsAsPublic, Gives]
  have hprotected : bitAt n.memberFlags Modifier.isProtected.place = true ↔
      ∃ c ∈ n.children, Reads "protected" c := by
    rw [bitAt_memberFlags]
    simp [Gives]
  have habstract : bitAt n.memberFlags Modifier.isAbstract.place = true ↔
      ∃ c ∈ n.children, c.type = "abstract_modifier" := by
    rw [bitAt_memberFlags]
    simp [Gives]
  constructor
  case isAbstract => exact habstract
  all_goals
    simp only [Modifiers.ofFlags, ← hpublic, ← hprotected]
    by_cases hbit : bitAt n.memberFlags Modifier.isPublic.place = true
    · simp [hbit]
    · by_cases hnext : bitAt n.memberFlags Modifier.isProtected.place = true <;> simp [hbit, hnext]

private theorem DecodedFrom.unique {children : List Cst} {m m' : Modifiers} (h : DecodedFrom children m)
    (h' : DecodedFrom children m') : m = m' := by
  obtain ⟨visibility, isAbstract⟩ := m
  obtain ⟨visibility', isAbstract'⟩ := m'
  have habstract : isAbstract = isAbstract' := Bool.eq_iff_iff.mpr (h.isAbstract.trans h'.isAbstract.symm)
  have hvisibility : visibility = visibility' := by
    cases visibility with
    | isPublic => exact (h'.isPublic.mpr (h.isPublic.mp rfl)).symm
    | isProtected => exact (h'.isProtected.mpr (h.isProtected.mp rfl)).symm
    | isPrivate => exact (h'.isPrivate.mpr (h.isPrivate.mp rfl)).symm
  rw [habstract, hvisibility]

/-- The modifiers that are never listed. -/
def IsUnlisted (c : Cst) : Prop :=
  c.type ∈ ["static_modifier", "final_modifier", "readonly_modifier"]

section SameChildren

variable {children children' : List Cst} (h : ∀ c, ¬ IsUnlisted c → (c ∈ children' ↔ c ∈ children))

include h

private theorem exists_mem_iff_of_same {P : Cst → Prop} (hP : ∀ c, P c → ¬ IsUnlisted c) :
    (∃ c ∈ children', P c) ↔ ∃ c ∈ children, P c := by
  apply exists_congr
  intro c
  rw [and_congr_left_iff]
  intro hc
  exact h c (hP c hc)

/-- Only which children there are counts, and of these only the modifiers that are listed. -/
theorem DecodedFrom.of_same {m : Modifiers} (hm : DecodedFrom children m) : DecodedFrom children' m := by
  have hreads (word : String) (c : Cst) (hc : Reads word c) : ¬ IsUnlisted c := by
    simp [IsUnlisted, hc.1]
  have hpublic (c : Cst) (hc : c.type = "var_modifier" ∨ Reads "public" c) : ¬ IsUnlisted c := by
    cases hc with
    | inl htype => simp [IsUnlisted, htype]
    | inr hc => exact hreads _ c hc
  have hvisibility (c : Cst) (hc : IsVisibility c) : ¬ IsUnlisted c := by
    rcases hc with hc | hc | hc
    · exact hpublic c hc
    · exact hreads _ c hc
    · exact hreads _ c hc
  have hcounts : CountsAsPublic children' ↔ CountsAsPublic children := by
    rw [CountsAsPublic, CountsAsPublic, exists_mem_iff_of_same h hpublic, exists_mem_iff_of_same h hvisibility]
  have hprotected := exists_mem_iff_of_same h (hreads "protected")
  have habstract := exists_mem_iff_of_same h (P := fun c => c.type = "abstract_modifier")
    (fun c hc => by simp [IsUnlisted, hc])
  constructor
  · rw [hcounts, hm.isPublic]
  · rw [hcounts, hprotected, hm.isProtected]
  · rw [hcounts, hprotected, hm.isPrivate]
  · rw [habstract, hm.isAbstract]

end SameChildren

/-! ### Members of a tree -/

private theorem eq_lower_of_tree {root : Cst} {t : Node} (h : root.tree = .ok t) : t = lower .stmtList root := by
  rw [tree] at h
  split at h
  · simp at h
  · rw [← lowerBody_eq_lower]
    exact (Except.ok.inj h).symm

/-- A method or a group of properties of a tree has the flags of a member in the searched region. -/
theorem exists_member_of_mem_tree {root : Cst} {t n : Node} (ht : root.tree = .ok t) (hn : n ∈ t.preorder)
    (hkind : n.kind = .method ∨ n.kind = .propGroup) : ∃ c ∈ region root, n.flags = c.memberFlags := by
  have hdecl : n ∈ t.decls := by
    rw [Node.decls, List.mem_filter]
    refine ⟨hn, ?_⟩
    rcases hkind with hkind | hkind <;> rw [hkind] <;> rfl
  rw [eq_lower_of_tree ht, decls_lower .stmtList rfl, decls_declarations] at hdecl
  obtain ⟨c, hc, rfl⟩ := List.mem_map.mp hdecl
  refine ⟨c, hc, ?_⟩
  rcases hkind with hkind | hkind
  · rw [declared_method ((kind_declared c).2.2.mp hkind)]
    rfl
  · rw [declared_property ((kind_declared c).2.1.mp hkind)]
    rfl

/-- What is read from the flags of a member follows from the modifiers among its children. It does not change if
children are put in another order or repeated, or if modifiers are added that are never listed. All members of a
tree have a visibility in their flags. -/
theorem modifiers_follow_from_children (head : CstHead) (children : List Cst) :
    DecodedFrom children (.ofFlags (node head children).memberFlags) ∧
    (∀ head' children', (∀ c, ¬ IsUnlisted c → (c ∈ children' ↔ c ∈ children)) →
      Modifiers.ofFlags (node head' children').memberFlags = .ofFlags (node head children).memberFlags) ∧
    ∀ root t, tree root = .ok t → ∀ n ∈ t.preorder, n.kind = .method ∨ n.kind = .propGroup →
      HasVisibility n.flags ∧ ∃ c ∈ region root, n.flags = c.memberFlags ∧ DecodedFrom c.children n.modifiers := by
  have hdecoded := decodedFrom_memberFlags (node head children)
  refine ⟨hdecoded, ?_, ?_⟩
  · intro head' children' hsame
    exact (decodedFrom_memberFlags (node head' children')).unique (hdecoded.of_same hsame)
  · intro root t ht n hn hkind
    obtain ⟨c, hc, hflags⟩ := exists_member_of_mem_tree ht hn hkind
    rw [Node.modifiers, hflags]
    exact ⟨hasVisibility_memberFlags c, c, hc, rfl, decodedFrom_memberFlags c⟩

def keyword (type text : String) : Cst :=
  .node ⟨type, none, 0, text.toUTF8, true, false, false⟩ []

/-- A static property that is protected and can be set in its own class only. -/
def asymmetric : List Cst :=
  [keyword "static_modifier" "static", keyword "visibility_modifier" "Protected",
    keyword "visibility_modifier" "private (set)"]

theorem asymmetric_modifiers :
    Modifiers.ofFlags (construct "property_declaration" none asymmetric).memberFlags = ⟨.isProtected, false⟩ ∧
    Modifiers.ofFlags (construct "method_declaration" none (asymmetric.tail.reverse ++ asymmetric.tail)).memberFlags =
      ⟨.isProtected, false⟩ ∧
    ∃ t, nestedClasses.tree = .ok t ∧ declared outerMethod ∈ t.preorder ∧
      HasVisibility (declared outerMethod).flags := by
  have hflags : Modifiers.ofFlags (construct "property_declaration" none asymmetric).memberFlags =
      ⟨.isProtected, false⟩ := by decide
  obtain ⟨_, hsame, htree⟩ := modifiers_follow_from_children (construct "property_declaration" none []).head asymmetric
  have hmethod : outerMethod.type = "method_declaration" := rfl
  have hmem : declared outerMethod ∈ (lower .stmtList nestedClasses).decls := by
    rw [decls_lower .stmtList rfl, decls_declarations, region_nestedClasses, within_outerClass]
    simp
  have hpreorder : declared outerMethod ∈ (lower .stmtList nestedClasses).preorder := List.mem_of_mem_filter hmem
  refine ⟨hflags, ?_, lower .stmtList nestedClasses, tree_of_no_error rfl, hpreorder, ?_⟩
  · refine (hsame _ _ ?_).trans hflags
    intro c hc
    have hne : c ≠ keyword "static_modifier" "static" := by
      rintro rfl
      simp [IsUnlisted, keyword, type, head] at hc
    simpa [asymmetric, hne] using Or.inr
  · exact (htree nestedClasses _ (tree_of_no_error rfl) _ hpreorder
      (.inl ((kind_declared outerMethod).2.2.mpr hmethod))).1

end ClassOutline.Cst
