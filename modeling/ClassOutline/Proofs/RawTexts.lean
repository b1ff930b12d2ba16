import ClassOutline.Text.Raw
import Mathlib.Data.List.Basic

/-!
# Texts from the system

Letters are ordered by their codes, which no two of them share: a byte that is no character has the code of a surrogate,
and no character has one. A text is sent in UTF-8 exactly if it consists of characters, and then it arrives as they are.
-/
namespace ClassOutline

namespace Letter

/-- No character has the code of a surrogate. -/
theorem code_stray_ne (b : Fin 128) (c : Char) : (stray b).code ≠ (char c).code := by
  have hvalid : c.toNat < 0xD800 ∨ 0xDFFF < c.toNat ∧ c.toNat < 0x110000 := c.valid
  have hb := b.isLt
  simp only [code]
  omega

private theorem code_injective : Function.Injective code := by
  intro a b h
  cases a with
  | char c =>
    cases b with
    | char d => rw [Char.toNat_inj.mp h]
    | stray j => exact absurd h.symm (code_stray_ne j c)
  | stray i =>
    cases b with
    | char d => exact absurd h (code_stray_ne i d)
    | stray j =>
      simp only [code, Nat.add_left_cancel_iff] at h
      rw [Fin.ext h]

instance : Std.IsLinearOrder Letter where
  le_refl a := Nat.le_refl a.code
  le_trans _ _ _ hab hbc := Nat.le_trans hab hbc
  le_antisymm _ _ hab hba := code_injective (Nat.le_antisymm hab hba)
  le_total a b := Nat.le_total a.code b.code

instance : Std.LawfulOrderLT Letter where
  lt_iff _ _ := Nat.lt_iff_le_and_not_ge

end Letter

/-! ### Texts of characters -/

@[simp]
theorem raw_append (s t : String) : raw (s ++ t) = raw s ++ raw t := by
  simp [raw]

theorem raw_injective : Function.Injective raw := by
  intro s t h
  have hinj : Function.Injective Letter.char := fun _ _ hc => Letter.char.inj hc
  exact String.toList_inj.mp (List.map_injective_iff.mpr hinj h)

private theorem raw_ofList (cs : List Char) : raw (String.ofList cs) = cs.map .char := by
  rw [raw, String.toList_ofList]

namespace RawText

theorem chars?_eq_some_iff {t : RawText} {cs : List Char} : t.chars? = some cs ↔ t = cs.map .char := by
  induction t generalizing cs with
  | nil => simp [chars?, eq_comm]
  | cons l t ih =>
    cases l with
    | stray b => cases cs <;> simp [chars?]
    | char c =>
      rw [chars?, Option.map_eq_some_iff]
      cases cs with
      | nil => simp
      | cons d cs =>
        simp only [ih, List.cons.injEq, List.map_cons, Letter.char.injEq]
        constructor
        · rintro ⟨rest, rfl, rfl, rfl⟩
          exact ⟨rfl, rfl⟩
        · rintro ⟨rfl, rfl⟩
          exact ⟨cs, rfl, rfl, rfl⟩

theorem chars?_map_char (cs : List Char) : chars? (cs.map .char) = some cs :=
  chars?_eq_some_iff.mpr rfl

/-- A text is sent in UTF-8 exactly if it has characters only. -/
theorem utf8?_eq_ok_iff {t : RawText} {s : String} : t.utf8? = .ok s ↔ t = raw s := by
  rw [utf8?]
  cases hcs : t.chars? with
  | none =>
    have hne : t ≠ raw s := by
      rintro rfl
      rw [raw, chars?_map_char] at hcs
      contradiction
    simp [hne]
  | some cs =>
    rw [chars?_eq_some_iff.mp hcs, ← raw_ofList]
    constructor
    · intro h
      rw [Except.ok.inj h]
    · intro h
      exact congrArg Except.ok (raw_injective h)

@[simp]
theorem utf8?_raw (s : String) : (raw s).utf8? = .ok s :=
  utf8?_eq_ok_iff.mpr rfl

/-- A text without bytes that are no characters. -/
def Encodable (t : RawText) : Prop :=
  ∀ l ∈ t, l.isStray = false

instance (t : RawText) : Decidable t.Encodable :=
  List.decidableBAll (fun l : Letter => l.isStray = false) t

theorem encodable_iff {t : RawText} : t.Encodable ↔ ∃ s, t = raw s := by
  constructor
  · intro h
    induction t with
    | nil => exact ⟨"", rfl⟩
    | cons l t ih =>
      obtain ⟨hl, ht⟩ := List.forall_mem_cons.mp h
      obtain ⟨s, rfl⟩ := ih ht
      cases l with
      | char c => exact ⟨String.ofList (c :: s.toList), by simp [raw]⟩
      | stray b => simp [Letter.isStray] at hl
  · rintro ⟨s, rfl⟩ l hl
    obtain ⟨c, _, rfl⟩ := List.mem_map.mp hl
    rfl

theorem encodable_raw (s : String) : (raw s).Encodable :=
  encodable_iff.mpr ⟨s, rfl⟩

@[simp]
theorem encodable_append {t u : RawText} : Encodable (t ++ u) ↔ Encodable t ∧ Encodable u :=
  List.forall_mem_append

theorem encodable_intercalate {between : RawText} (hbetween : between.Encodable) {texts : List RawText} :
    Encodable (between.intercalate texts) ↔ ∀ text ∈ texts, text.Encodable := by
  induction texts with
  | nil => simp [Encodable]
  | cons text texts ih =>
    by_cases hrest : texts = []
    · simp [hrest]
    · rw [List.intercalate_cons_of_ne_nil hrest, encodable_append, encodable_append, ih, List.forall_mem_cons]
      simp [hbetween]

/-- A text that cannot be sent is refused with a message. -/
theorem utf8?_eq_error_iff {t : RawText} {message : String} :
    t.utf8? = .error message ↔ ¬ t.Encodable ∧ message = t.encodingMessage := by
  rw [encodable_iff]
  constructor
  · intro h
    refine ⟨?_, ?_⟩
    · rintro ⟨s, rfl⟩
      rw [utf8?_raw] at h
      contradiction
    · rw [utf8?] at h
      split at h
      · contradiction
      · exact (Except.error.inj h).symm
  · rintro ⟨hnone, rfl⟩
    cases hutf : t.utf8? with
    | ok s => exact absurd ⟨s, utf8?_eq_ok_iff.mp hutf⟩ hnone
    | error message =>
      rw [utf8?] at hutf
      split at hutf
      · contradiction
      · rw [← Except.error.inj hutf]

@[simp]
theorem shown_raw (s : String) : (raw s).shown = s := by
  have hletters : ∀ cs : List Char, (cs.map Letter.char).flatMap shownLetter = cs := by
    intro cs
    induction cs with
    | nil => rfl
    | cons c cs ih => rw [List.map_cons, List.flatMap_cons, ih, shownLetter, List.singleton_append]
  rw [shown, raw, hletters, String.ofList_toList]

@[simp]
theorem size_append (t u : RawText) : size (t ++ u) = size t + size u := by
  induction t with
  | nil => simp [size]
  | cons l t ih =>
    rw [List.cons_append, size, size, ih, Nat.add_assoc]

end RawText

end ClassOutline
