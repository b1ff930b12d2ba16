import ClassOutline.Config.Settings
import ClassOutline.Proofs.TextLaws

/-!
# Lists of suffixes

A text with suffixes between commas is read as a list in one form: each suffix has a leading dot, is in lower case and
has neither commas nor blanks around it. The list has one suffix for each part that is not blank, in their order, or
the usual one if all parts are blank, and its own text is read as the list itself.
-/
namespace ClassOutline.Config

/-- The form of a suffix in a list. -/
structure IsExtension (suffix : String) : Prop where
  dotted : suffix.toList.head? = some '.'
  lower : Text.lower suffix.toList = suffix.toList
  no_comma : ',' ∉ suffix.toList
  trimmed : Text.Trimmed suffix.toList

/-- A text with a dot in front, unless it has one. -/
def withDot (cs : List Char) : List Char :=
  if cs.head? = some '.' then cs else '.' :: cs

/-- The suffix that a part stands for: its lower case, without the blanks around it and with a dot in front. -/
def StandsFor (part : List Char) (suffix : String) : Prop :=
  ∃ core, Text.IsCore part core ∧ core ≠ [] ∧ suffix.toList = withDot (Text.lower core)

def IsBlankPart (part : List Char) : Prop :=
  ∀ c ∈ part, Text.isBlank c = true

instance (part : List Char) : Decidable (IsBlankPart part) :=
  decidable_of_iff (part.all Text.isBlank = true) List.all_eq_true

private theorem extension?_of_blank {part : List Char} (h : IsBlankPart part) : extension? part = none := by
  rw [extension?, Text.trim_eq_nil_iff.mpr h]
  rfl

private theorem extension?_of_not_blank {part : List Char} (h : ¬ IsBlankPart part) :
    extension? part = some (String.ofList (withDot (Text.lower (Text.trim part)))) := by
  have hne := Text.lower_ne_nil (mt Text.trim_eq_nil_iff.mp h)
  unfold extension? withDot
  split
  · rename_i hnil
    exact absurd hnil hne
  · rename_i rest hdot
    simp [hdot]
  · rename_i hdot
    rw [if_neg]
    intro hhead
    obtain ⟨rest, hrest⟩ := List.head?_eq_some_iff.mp hhead
    exact hdot rest hrest

private theorem extension?_eq_some_iff {part : List Char} {suffix : String} :
    extension? part = some suffix ↔ StandsFor part suffix := by
  by_cases hblank : IsBlankPart part
  · rw [extension?_of_blank hblank]
    constructor
    · intro h
      cases h
    · rintro ⟨core, hcore, hne, _⟩
      exact absurd ((Text.isCore_iff.mp hcore).trans (Text.trim_eq_nil_iff.mpr hblank)) hne
  · rw [extension?_of_not_blank hblank]
    constructor
    · intro h
      obtain rfl := Option.some.inj h
      exact ⟨_, Text.isCore_trim part, mt Text.trim_eq_nil_iff.mp hblank, String.toList_ofList⟩
    · rintro ⟨core, hcore, _, hsuffix⟩
      rw [← Text.isCore_iff.mp hcore, ← hsuffix, String.ofList_toList]

private theorem isLower_dot : Text.IsLower '.' :=
  ⟨by decide, by decide, by decide⟩

/-- What a part without commas stands for has the form of a suffix. -/
theorem isExtension_of_standsFor {part : List Char} {suffix : String} (hcomma : ',' ∉ part)
    (h : StandsFor part suffix) : IsExtension suffix := by
  obtain ⟨core, hcore, hne, hsuffix⟩ := h
  obtain ⟨before, after, rfl, _, _, htrimmed⟩ := hcore
  have hlower : ∀ c ∈ Text.lower core, Text.IsLower c := fun c hc => Text.isLower_of_mem_lower hc
  have hcomma : ',' ∉ Text.lower core := Text.comma_not_mem_lower (by simp_all)
  have hends := Text.trimmed_lower htrimmed
  unfold withDot at hsuffix
  split at hsuffix
  · rename_i hdot
    constructor <;> rw [hsuffix]
    · exact hdot
    · exact Text.lower_of_isLower hlower
    · exact hcomma
    · exact hends
  · constructor <;> rw [hsuffix]
    · rfl
    · exact Text.lower_of_isLower (List.forall_mem_cons.mpr ⟨isLower_dot, hlower⟩)
    · simp [hcomma]
    · obtain ⟨c, cs, hcs⟩ := List.exists_cons_of_ne_nil (Text.lower_ne_nil hne)
      refine ⟨fun x hx => ?_, ?_⟩
      · obtain rfl := Option.some.inj hx
        rfl
      · rw [hcs, List.getLast?_cons_cons, ← hcs]
        exact hends.2

/-- A suffix in that form stands for itself. -/
theorem IsExtension.standsFor {suffix : String} (h : IsExtension suffix) : StandsFor suffix.toList suffix := by
  refine ⟨suffix.toList, ⟨[], [], by simp, by simp, by simp, h.trimmed⟩, ?_, ?_⟩
  · intro hnil
    have hdotted := h.dotted
    rw [hnil] at hdotted
    cases hdotted
  · rw [h.lower, withDot, if_pos h.dotted]

/-- Parts that are not blank have a suffix each. -/
theorem standsFor_filterMap (parts : List (List Char)) :
    List.Forall₂ StandsFor (parts.filter fun part => ¬ IsBlankPart part) (parts.filterMap extension?) := by
  induction parts with
  | nil => exact .nil
  | cons part parts ih =>
    by_cases hblank : IsBlankPart part
    · rw [List.filterMap_cons_none (extension?_of_blank hblank), List.filter_cons_of_neg (by simpa using hblank)]
      exact ih
    · have hsuffix := extension?_of_not_blank hblank
      rw [List.filterMap_cons_some hsuffix, List.filter_cons_of_pos (by simpa using hblank)]
      exact .cons (extension?_eq_some_iff.mp hsuffix) ih

theorem filterMap_eq_nil_iff {parts : List (List Char)} :
    parts.filterMap extension? = [] ↔ ∀ part ∈ parts, IsBlankPart part := by
  rw [List.filterMap_eq_nil_iff]
  refine forall₂_congr fun part _ => ⟨fun h => ?_, extension?_of_blank⟩
  by_contra hblank
  rw [extension?_of_not_blank hblank] at h
  cases h

private theorem extensions_of_blank {text : String} (h : ∀ part ∈ Text.splitOn ',' text.toList, IsBlankPart part) :
    extensions text = defaultExtensions := by
  rw [extensions, filterMap_eq_nil_iff.mpr h]

private theorem extensions_of_not_blank {text : String}
    (h : ¬ ∀ part ∈ Text.splitOn ',' text.toList, IsBlankPart part) :
    extensions text = (Text.splitOn ',' text.toList).filterMap extension? := by
  unfold extensions
  split
  · rename_i hnil
    exact absurd (filterMap_eq_nil_iff.mp hnil) h
  · rfl

private theorem isExtension_of_mem {text suffix : String} (h : suffix ∈ extensions text) : IsExtension suffix := by
  by_cases hblank : ∀ part ∈ Text.splitOn ',' text.toList, IsBlankPart part
  · rw [extensions_of_blank hblank] at h
    obtain rfl := List.mem_singleton.mp h
    have hread : extension? ".php".toList = some ".php" := by decide
    exact isExtension_of_standsFor (by decide) (extension?_eq_some_iff.mp hread)
  · rw [extensions_of_not_blank hblank] at h
    obtain ⟨part, hpart, hsuffix⟩ := List.mem_filterMap.mp h
    exact isExtension_of_standsFor (Text.not_mem_of_mem_splitOn hpart) (extension?_eq_some_iff.mp hsuffix)

private theorem extensions_ne_nil (text : String) : extensions text ≠ [] := by
  unfold extensions
  split
  · exact List.cons_ne_nil _ _
  · assumption

/-- A list of suffixes is read from its own text. -/
theorem extensions_intercalate {suffixes : List String} (hne : suffixes ≠ [])
    (h : ∀ suffix ∈ suffixes, IsExtension suffix) : extensions (",".intercalate suffixes) = suffixes := by
  have hparts : Text.splitOn ',' (",".intercalate suffixes).toList = suffixes.map String.toList := by
    refine (Text.divides_iff.mp ⟨by simpa using hne, ?_, ?_⟩).symm
    · simpa using fun suffix hsuffix => (h suffix hsuffix).no_comma
    · rw [String.toList_intercalate]
      rfl
  have hread : (suffixes.map String.toList).filterMap extension? = suffixes := by
    rw [List.filterMap_map]
    calc suffixes.filterMap (extension? ∘ String.toList)
      _ = suffixes.filterMap some :=
        List.filterMap_congr fun suffix hsuffix => extension?_eq_some_iff.mpr (h suffix hsuffix).standsFor
      _ = suffixes := List.filterMap_some
  unfold extensions
  rw [hparts, hread]
  split
  · exact absurd rfl hne
  · rfl

/-- A text is read as a list of suffixes in one form, which its own text is read as again. The list has a suffix for
each part between commas that is not blank, or the usual suffix if all parts are blank. -/
theorem extensions_in_normal_form (text : String) :
    extensions text ≠ [] ∧ (∀ suffix ∈ extensions text, IsExtension suffix) ∧
    extensions (",".intercalate (extensions text)) = extensions text ∧
    ∃ parts, (∀ other, Text.Divides ',' text.toList other ↔ other = parts) ∧
      ((∀ part ∈ parts, IsBlankPart part) ∧ extensions text = defaultExtensions ∨
        (¬ ∀ part ∈ parts, IsBlankPart part) ∧
          List.Forall₂ StandsFor (parts.filter fun part => ¬ IsBlankPart part) (extensions text)) := by
  have hform : ∀ suffix ∈ extensions text, IsExtension suffix := fun suffix => isExtension_of_mem
  refine ⟨extensions_ne_nil text, hform, extensions_intercalate (extensions_ne_nil text) hform,
    Text.splitOn ',' text.toList, fun _ => Text.divides_iff, ?_⟩
  by_cases hblank : ∀ part ∈ Text.splitOn ',' text.toList, IsBlankPart part
  · exact .inl ⟨hblank, extensions_of_blank hblank⟩
  · refine .inr ⟨hblank, ?_⟩
    rw [extensions_of_not_blank hblank]
    exact standsFor_filterMap _

example : extensions " PHP,\t,.Inc ,," = [".php", ".inc"] := by decide

end ClassOutline.Config
