import ClassOutline.Text.Basic
import ClassOutline.Text.Case
import Mathlib.Data.List.Forall2
import Mathlib.Data.List.TakeWhile

/-!
# Parts, blanks and lower case

Laws of the operations that take texts apart and bring them into one form. The parts of a text are the only ones
without a separator that it is joined from, trimming takes exactly the blanks from both ends, and lowering puts one of
its lower-case forms in the place of each character, which lowering leaves as it is and which is neither blank nor a
separator unless the character was one.
-/
namespace ClassOutline.Text

/-! ### Parts -/

section Parts

variable {α : Type} [DecidableEq α]

theorem splitOn_eq_listSplitOn (sep : α) (cs : List α) : splitOn sep cs = cs.splitOn sep := by
  induction cs with
  | nil => rfl
  | cons c cs ih =>
    have hsplit : (c :: cs).splitOn sep =
        if c = sep then [] :: cs.splitOn sep else (cs.splitOn sep).modifyHead (c :: ·) := by
      simp [List.splitOn, List.splitOnP_cons_eq_if_modifyHead]
    rw [splitOn, ih, hsplit]
    cases hparts : cs.splitOn sep with
    | nil => exact absurd (ih.trans hparts) (splitOn_ne_nil sep cs)
    | cons part parts => rfl

theorem not_mem_of_mem_splitOn {sep : α} {cs part : List α} (h : part ∈ splitOn sep cs) : sep ∉ part := by
  induction cs generalizing part with
  | nil =>
    obtain rfl := List.mem_singleton.mp h
    exact List.not_mem_nil
  | cons c cs ih =>
    unfold splitOn at h
    split at h
    · rcases List.mem_cons.mp h with rfl | h
      · exact List.not_mem_nil
      · exact ih h
    · rename_i hc
      split at h
      · rename_i hnil
        exact absurd hnil (splitOn_ne_nil sep cs)
      · rename_i first rest hparts
        rcases List.mem_cons.mp h with rfl | h
        · have hfirst : sep ∉ first := ih (by simp [hparts])
          simp [hfirst, Ne.symm hc]
        · exact ih (by simp [hparts, h])

end Parts

/-- Parts without a separator that a text is joined from. -/
structure Divides (sep : Char) (cs : List Char) (parts : List (List Char)) : Prop where
  ne_nil : parts ≠ []
  separated : ∀ part ∈ parts, sep ∉ part
  joined : [sep].intercalate parts = cs

theorem divides_iff {sep : Char} {cs : List Char} {parts : List (List Char)} :
    Divides sep cs parts ↔ parts = splitOn sep cs := by
  constructor
  · rintro ⟨hne, hseparated, rfl⟩
    rw [splitOn_eq_listSplitOn, List.splitOn_intercalate sep hseparated hne]
  · rintro rfl
    refine ⟨splitOn_ne_nil sep cs, fun part hpart => not_mem_of_mem_splitOn hpart, ?_⟩
    rw [splitOn_eq_listSplitOn, List.intercalate_splitOn]

/-! ### Blanks -/

/-- A text without blanks at its ends. -/
def Trimmed (cs : List Char) : Prop :=
  (∀ c ∈ cs.head?, isBlank c = false) ∧ ∀ c ∈ cs.getLast?, isBlank c = false

/-- What stands between the blanks at the ends of a text. -/
def IsCore (cs core : List Char) : Prop :=
  ∃ before after, cs = before ++ (core ++ after) ∧ (∀ c ∈ before, isBlank c = true) ∧
    (∀ c ∈ after, isBlank c = true) ∧ Trimmed core

private theorem dropWhile_of_head? {p : Char → Bool} {cs : List Char} (h : ∀ c ∈ cs.head?, p c = false) :
    cs.dropWhile p = cs := by
  cases cs with
  | nil => rfl
  | cons c cs =>
    have hc := h c rfl
    simp [hc]

theorem head?_dropWhile (p : Char → Bool) (cs : List Char) : ∀ c ∈ (cs.dropWhile p).head?, p c = false := by
  intro c hc
  have hend := List.head?_dropWhile_not p cs
  simpa [Option.mem_def.mp hc] using hend

private theorem trimEnd_append {cs after : List Char} (h : ∀ c ∈ cs.getLast?, isBlank c = false)
    (hafter : ∀ c ∈ after, isBlank c = true) : trimEnd (cs ++ after) = cs := by
  have hblank : ∀ c ∈ after.reverse, isBlank c = true := by simpa using hafter
  rw [trimEnd, List.reverse_append, List.dropWhile_append_of_pos hblank,
    dropWhile_of_head? (by simpa using h), List.reverse_reverse]

theorem isCore_trim (cs : List Char) : IsCore cs (trim cs) := by
  generalize hstart : trimStart cs = start
  have hparts : start = trimEnd start ++ (start.reverse.takeWhile isBlank).reverse := by
    rw [trimEnd, ← List.reverse_append, List.takeWhile_append_dropWhile, List.reverse_reverse]
  refine ⟨cs.takeWhile isBlank, (start.reverse.takeWhile isBlank).reverse, ?_,
    fun c hc => List.mem_takeWhile_imp hc, fun c hc => List.mem_takeWhile_imp (List.mem_reverse.mp hc), ?_, ?_⟩
  · rw [trim, hstart, ← hparts, ← hstart, trimStart, List.takeWhile_append_dropWhile]
  · intro c hc
    rw [trim, hstart] at hc
    have hhead : c ∈ start.head? := by
      rw [hparts, List.head?_append, Option.mem_def.mp hc]
      rfl
    rw [← hstart] at hhead
    exact head?_dropWhile isBlank cs c hhead
  · intro c hc
    rw [trim, hstart, trimEnd, List.getLast?_reverse] at hc
    exact head?_dropWhile isBlank _ c hc

/-- The trimmed text is what stands between the blanks at its ends. -/
theorem isCore_iff {cs core : List Char} : IsCore cs core ↔ core = trim cs := by
  constructor
  · rintro ⟨before, after, rfl, hbefore, hafter, hhead, hlast⟩
    rw [trim, trimStart, List.dropWhile_append_of_pos hbefore]
    cases core with
    | nil =>
      rw [List.nil_append, List.dropWhile_eq_nil_iff.mpr hafter]
      rfl
    | cons c core =>
      have hc : ∀ x ∈ (c :: core ++ after).head?, isBlank x = false := hhead
      rw [dropWhile_of_head? hc, trimEnd_append hlast hafter]
  · rintro rfl
    exact isCore_trim cs

theorem trim_eq_nil_iff {cs : List Char} : trim cs = [] ↔ ∀ c ∈ cs, isBlank c = true := by
  constructor
  · intro h
    obtain ⟨before, after, hcs, hbefore, hafter, _⟩ := isCore_trim cs
    rw [h, List.nil_append] at hcs
    intro c hc
    rw [hcs] at hc
    exact (List.mem_append.mp hc).elim (hbefore c) (hafter c)
  · intro h
    exact (isCore_iff.mp ⟨cs, [], by simp, h, by simp, by simp [Trimmed]⟩).symm

/-! ### Lower case -/

/-- The forms that a character takes in lower case. -/
inductive LowerForm : Char → List Char → Prop
  | single {c : Char} (hdotted : c.toNat ≠ 0x130) (hsigma : c.toNat ≠ 0x3A3) : LowerForm c [lowerChar c]
  | dotted {c : Char} (h : c.toNat = 0x130) : LowerForm c ['i', Char.ofNat 0x307]
  | sigma {c : Char} (h : c.toNat = 0x3A3) : LowerForm c [Char.ofNat 0x3C3]
  | finalSigma {c : Char} (h : c.toNat = 0x3A3) : LowerForm c [Char.ofNat 0x3C2]

/-- Characters that lowering leaves as they are. -/
structure IsLower (c : Char) : Prop where
  fixed : lowerChar c = c
  ne_dotted : c.toNat ≠ 0x130
  ne_sigma : c.toNat ≠ 0x3A3

/-- Code points that no other one is lowered to: those up to the first small letter, with the ASCII capitals and
separators, the blanks, the two special capitals and the surrogates. -/
def reservedRanges : List (Nat × Nat) :=
  [(0, 0x60), (0x80, 0xA0), (0x130, 0x130), (0x3A3, 0x3A3), (0x1680, 0x1680), (0x2000, 0x205F), (0x3000, 0x3000),
    (0xD800, 0xDFFF)]

namespace CaseRun

/-- What a run lowers a code point to. -/
def target (r : CaseRun) (n : Nat) : Nat :=
  (n + r.shift).toNat

/-- The targets of one run lie before or behind the other, or in its gaps. -/
def avoids (r s : CaseRun) : Bool :=
  (r.target r.last).blt s.first || s.last.blt (r.target r.first) ||
    (s.step.beq 2 && ((r.target r.first + s.first) % 2).beq 1 && (r.step.beq 2 || r.first.beq r.last))

/-- The targets of a run are characters that are not reserved. -/
def isFree (r : CaseRun) : Bool :=
  0 ≤ r.first + r.shift && r.target r.last < 0x110000 &&
    reservedRanges.all fun range => r.target r.last < range.1 || range.2 < r.target r.first

private theorem target_bounds {r : CaseRun} {n : Nat} (hn : r.covers n = true) :
    r.target r.first ≤ r.target n ∧ r.target n ≤ r.target r.last := by
  simp only [covers, Bool.and_eq_true, decide_eq_true_eq] at hn
  unfold target
  omega

private theorem not_covers_target {r s : CaseRun} {n : Nat} (hfree : r.isFree = true) (h : r.avoids s = true)
    (hn : r.covers n = true) : s.covers (r.target n) = false := by
  have hbounds := target_bounds hn
  simp only [isFree, avoids, covers, Bool.and_eq_true, Bool.or_eq_true, decide_eq_true_eq, beq_iff_eq,
    Nat.blt_eq, Nat.beq_eq] at hfree h hn
  by_contra hcovers
  simp only [covers, Bool.not_eq_false, Bool.and_eq_true, decide_eq_true_eq, beq_iff_eq] at hcovers
  rcases h with (h | h) | ⟨⟨hs, hparity⟩, hr⟩
  · omega
  · omega
  · -- The targets all have the parity of the first one, and the other run covers only the other parity.
    rw [hs] at hcovers
    have htarget : (r.target n + r.target r.first) % 2 = 0 := by
      unfold target
      rcases hr with hr | hr
      · rw [hr] at hn
        omega
      · omega
    omega

end CaseRun

private theorem avoids_lowerRuns : (lowerRuns.all fun r => lowerRuns.all r.avoids) = true := by
  decide +kernel

private theorem isFree_lowerRuns : lowerRuns.all CaseRun.isFree = true := by
  decide +kernel

private theorem toNat_ofNat_of_isValidChar {n : Nat} (h : n.isValidChar) : (Char.ofNat n).toNat = n := by
  rw [Char.ofNat, dif_pos h]
  rfl

private theorem isFree_of_mem {r : CaseRun} (hr : r ∈ lowerRuns) : r.isFree = true :=
  List.all_eq_true.mp isFree_lowerRuns r hr

private theorem toNat_target {r : CaseRun} {n : Nat} (hr : r ∈ lowerRuns) (hn : r.covers n = true) :
    (Char.ofNat (r.target n)).toNat = r.target n ∧ inRanges reservedRanges (r.target n) = false := by
  have hbounds := CaseRun.target_bounds hn
  have hfree := isFree_of_mem hr
  simp only [CaseRun.isFree, Bool.and_eq_true, decide_eq_true_eq, List.all_eq_true, Bool.or_eq_true] at hfree
  have hreserved : inRanges reservedRanges (r.target n) = false := by
    rw [inRanges, List.any_eq_false]
    intro range hrange
    have := hfree.2 range hrange
    simp only [Bool.and_eq_true, decide_eq_true_eq, not_and]
    omega
  have hsurrogate := hfree.2 (0xD800, 0xDFFF) (by decide)
  refine ⟨toNat_ofNat_of_isValidChar ?_, hreserved⟩
  unfold Nat.isValidChar
  omega

private theorem lowerChar_eq_self {c : Char} (hascii : ¬ (0x41 ≤ c.toNat ∧ c.toNat ≤ 0x5A))
    (hruns : 0x80 ≤ c.toNat → ∀ r ∈ lowerRuns, r.covers c.toNat = false) : lowerChar c = c := by
  by_cases hn : c.toNat < 0x80
  · simp [lowerChar, hn, hascii]
  · have hnone : lowerRuns.find? (·.covers c.toNat) = none := by
      simpa using hruns (by omega)
    simp [lowerChar, hn, hnone]

private theorem of_not_reserved {n : Nat} (h : inRanges reservedRanges n = false) :
    0x60 < n ∧ n ≠ 0x130 ∧ n ≠ 0x3A3 := by
  simp [inRanges, reservedRanges] at h
  omega

private theorem isBlank_of_not_reserved {c : Char} (h : inRanges reservedRanges c.toNat = false) :
    isBlank c = false := by
  simp [inRanges, reservedRanges] at h
  rw [← Bool.not_eq_true]
  simp only [isBlank, Bool.or_eq_true, Bool.and_eq_true, decide_eq_true_eq, beq_iff_eq]
  omega

/-- A character that is lowered to another one becomes an unreserved character that stays. -/
theorem lowerChar_cases (c : Char) :
    lowerChar c = c ∨
      inRanges reservedRanges (lowerChar c).toNat = false ∧ lowerChar (lowerChar c) = lowerChar c := by
  by_cases hascii : c.toNat < 0x80
  · by_cases hcapital : 0x41 ≤ c.toNat ∧ c.toNat ≤ 0x5A
    · have hlower : lowerChar c = Char.ofNat (c.toNat + 32) := by simp [lowerChar, hascii, hcapital]
      have htoNat : (Char.ofNat (c.toNat + 32)).toNat = c.toNat + 32 :=
        toNat_ofNat_of_isValidChar (.inl (by omega))
      rw [hlower, htoNat]
      refine .inr ⟨?_, lowerChar_eq_self (by omega) (by omega)⟩
      simp [inRanges, reservedRanges]
      omega
    · exact .inl (lowerChar_eq_self hcapital (by omega))
  · cases hfind : lowerRuns.find? (fun r => r.covers c.toNat) with
    | none => exact .inl (by simp [lowerChar, hascii, hfind])
    | some r =>
      have hr := List.mem_of_find?_eq_some hfind
      have hcovers := List.find?_some hfind
      have hlower : lowerChar c = Char.ofNat (r.target c.toNat) := by
        simp [lowerChar, hascii, hfind, CaseRun.target]
      obtain ⟨htoNat, hreserved⟩ := toNat_target hr hcovers
      have hfree := of_not_reserved hreserved
      rw [hlower, htoNat]
      refine .inr ⟨hreserved, lowerChar_eq_self (by omega) fun _ s hs => ?_⟩
      rw [htoNat]
      have havoids := List.all_eq_true.mp (List.all_eq_true.mp avoids_lowerRuns r hr) s hs
      exact CaseRun.not_covers_target (isFree_of_mem hr) havoids hcovers

namespace LowerForm

variable {c x : Char} {form : List Char}

theorem ne_nil (h : LowerForm c form) : form ≠ [] := by
  cases h <;> simp

private theorem mem_cases (h : LowerForm c form) (hx : x ∈ form) : x = c ∨ inRanges reservedRanges x.toNat = false := by
  cases h with
  | single =>
    obtain rfl := List.mem_singleton.mp hx
    exact (lowerChar_cases c).imp id And.left
  | dotted =>
    rcases List.mem_pair.mp hx with rfl | rfl <;> exact .inr (by decide)
  | sigma =>
    obtain rfl := List.mem_singleton.mp hx
    exact .inr (by decide)
  | finalSigma =>
    obtain rfl := List.mem_singleton.mp hx
    exact .inr (by decide)

private theorem isLower (h : LowerForm c form) (hx : x ∈ form) : IsLower x := by
  cases h with
  | single hdotted hsigma =>
    obtain rfl := List.mem_singleton.mp hx
    rcases lowerChar_cases c with hfixed | ⟨hreserved, hfixed⟩
    · rw [hfixed]
      exact ⟨hfixed, hdotted, hsigma⟩
    · obtain ⟨_, hnotDotted, hnotSigma⟩ := of_not_reserved hreserved
      exact ⟨hfixed, hnotDotted, hnotSigma⟩
  | dotted =>
    rcases List.mem_pair.mp hx with rfl | rfl <;> exact ⟨by decide, by decide, by decide⟩
  | sigma =>
    obtain rfl := List.mem_singleton.mp hx
    exact ⟨by decide, by decide, by decide⟩
  | finalSigma =>
    obtain rfl := List.mem_singleton.mp hx
    exact ⟨by decide, by decide, by decide⟩

private theorem not_isBlank (h : LowerForm c form) (hc : isBlank c = false) (hx : x ∈ form) : isBlank x = false := by
  rcases h.mem_cases hx with rfl | hreserved
  · exact hc
  · exact isBlank_of_not_reserved hreserved

end LowerForm

private theorem exists_lowerForms (before cs : List Char) :
    ∃ forms, List.Forall₂ LowerForm cs forms ∧ lowerAfter before cs = forms.flatten := by
  induction cs generalizing before with
  | nil => exact ⟨[], .nil, rfl⟩
  | cons c cs ih =>
    obtain ⟨forms, hforms, hrest⟩ := ih (c :: before)
    have hcons {form : List Char} (hform : LowerForm c form)
        (hlower : lowerAfter before (c :: cs) = form ++ lowerAfter (c :: before) cs) :
        ∃ forms, List.Forall₂ LowerForm (c :: cs) forms ∧ lowerAfter before (c :: cs) = forms.flatten :=
      ⟨form :: forms, .cons hform hforms, by rw [hlower, hrest, List.flatten_cons]⟩
    by_cases hdotted : c.toNat = 0x130
    · exact hcons (.dotted hdotted) (by simp [lowerAfter, hdotted])
    by_cases hsigma : c.toNat = 0x3A3
    · cases hfinal : nextIsCased before && !nextIsCased cs with
      | true => exact hcons (.finalSigma hsigma) (by simp [lowerAfter, hsigma, hfinal])
      | false => exact hcons (.sigma hsigma) (by simp [lowerAfter, hsigma, hfinal])
    · exact hcons (.single hdotted hsigma) (by simp [lowerAfter, hdotted, hsigma])

private theorem exists_form_of_mem {cs : List Char} {forms : List (List Char)} {x : Char}
    (h : List.Forall₂ LowerForm cs forms) (hx : x ∈ forms.flatten) : ∃ c ∈ cs, ∃ form, LowerForm c form ∧ x ∈ form := by
  induction h with
  | nil => simp at hx
  | cons hform _ ih =>
    rcases List.mem_append.mp hx with hx | hx
    · exact ⟨_, List.mem_cons_self, _, hform, hx⟩
    · obtain ⟨c, hc, hfound⟩ := ih hx
      exact ⟨c, List.mem_cons_of_mem _ hc, hfound⟩

private theorem exists_form_of_head? {cs : List Char} {forms : List (List Char)} {x : Char}
    (h : List.Forall₂ LowerForm cs forms) (hx : x ∈ forms.flatten.head?) :
    ∃ c ∈ cs.head?, ∃ form, LowerForm c form ∧ x ∈ form := by
  cases h with
  | nil => simp at hx
  | cons hform _ =>
    obtain ⟨y, ys, rfl⟩ := List.exists_cons_of_ne_nil hform.ne_nil
    obtain rfl : y = x := by simpa using hx
    exact ⟨_, rfl, _, hform, List.mem_cons_self⟩

private theorem flatten_ne_nil {cs : List Char} {forms : List (List Char)} (h : List.Forall₂ LowerForm cs forms)
    (hcs : cs ≠ []) : forms.flatten ≠ [] := by
  cases h with
  | nil => exact absurd rfl hcs
  | cons hform _ => simp [hform.ne_nil]

private theorem exists_form_of_getLast? {cs : List Char} {forms : List (List Char)} {x : Char}
    (h : List.Forall₂ LowerForm cs forms) (hx : x ∈ forms.flatten.getLast?) :
    ∃ c ∈ cs.getLast?, ∃ form, LowerForm c form ∧ x ∈ form := by
  induction h with
  | nil => simp at hx
  | @cons c form cs forms hform hforms ih =>
    cases cs with
    | nil =>
      cases hforms
      refine ⟨c, rfl, form, hform, List.mem_of_getLast? ?_⟩
      simpa using hx
    | cons d cs =>
      -- No form is empty, so the last character is in a form of the rest.
      have hne := flatten_ne_nil hforms (List.cons_ne_nil d cs)
      rw [List.flatten_cons, List.getLast?_append_of_ne_nil _ hne] at hx
      rw [List.getLast?_cons_cons]
      exact ih hx

theorem isLower_of_mem_lower {cs : List Char} {x : Char} (hx : x ∈ lower cs) : IsLower x := by
  obtain ⟨forms, hforms, hlower⟩ := exists_lowerForms [] cs
  rw [lower, hlower] at hx
  obtain ⟨c, _, form, hform, hx⟩ := exists_form_of_mem hforms hx
  exact hform.isLower hx

private theorem lowerAfter_of_isLower {before cs : List Char} (h : ∀ c ∈ cs, IsLower c) :
    lowerAfter before cs = cs := by
  induction cs generalizing before with
  | nil => rfl
  | cons c cs ih =>
    obtain ⟨hc, hcs⟩ := List.forall_mem_cons.mp h
    simp [lowerAfter, hc.ne_dotted, hc.ne_sigma, hc.fixed, ih hcs]

theorem lower_of_isLower {cs : List Char} (h : ∀ c ∈ cs, IsLower c) : lower cs = cs :=
  lowerAfter_of_isLower h

/-- Lowering creates no comma. -/
theorem comma_not_mem_lower {cs : List Char} (h : ',' ∉ cs) : ',' ∉ lower cs := by
  intro hx
  obtain ⟨forms, hforms, hlower⟩ := exists_lowerForms [] cs
  rw [lower, hlower] at hx
  obtain ⟨c, hc, form, hform, hx⟩ := exists_form_of_mem hforms hx
  rcases hform.mem_cases hx with rfl | hreserved
  · exact h hc
  · exact absurd hreserved (by decide)

/-- Lowering creates no blank at the ends. -/
theorem trimmed_lower {cs : List Char} (h : Trimmed cs) : Trimmed (lower cs) := by
  obtain ⟨forms, hforms, hlower⟩ := exists_lowerForms [] cs
  rw [lower, hlower]
  constructor
  · intro x hx
    obtain ⟨c, hc, form, hform, hx⟩ := exists_form_of_head? hforms hx
    exact hform.not_isBlank (h.1 c hc) hx
  · intro x hx
    obtain ⟨c, hc, form, hform, hx⟩ := exists_form_of_getLast? hforms hx
    exact hform.not_isBlank (h.2 c hc) hx

theorem lower_ne_nil {cs : List Char} (h : cs ≠ []) : lower cs ≠ [] := by
  obtain ⟨forms, hforms, hlower⟩ := exists_lowerForms [] cs
  rw [lower, hlower]
  exact flatten_ne_nil hforms h

end ClassOutline.Text
