import ClassOutline.Decimal.Layout
import ClassOutline.Proofs.JsonReading
import ClassOutline.Proofs.ShortestDecimals
import Mathlib.Data.List.DropRight

/-!
# Decimals written with a point

A numeral has digits on both sides of a point and no zeros that could be left out; its text reads back as its value.
A decimal within the reach of a layout is written as the numeral with its value.
-/
namespace ClassOutline.Decimal

/-! ### Numerals -/

/-- A number with its sign. -/
def signed (negative : Bool) (x : ℚ) : ℚ :=
  if negative then -x else x

/-- A number written with a point and at most `places` digits behind it. A zero begins the whole part or ends the
fraction only where it is the only digit. -/
structure Numeral (places : ℕ) where
  negative : Bool
  whole : List Char
  fraction : List Char
  whole_digits : ∀ c ∈ whole, c.isDigit = true
  whole_ne_nil : whole ≠ []
  whole_zero : whole.head? = some '0' → whole = ['0']
  fraction_digits : ∀ c ∈ fraction, c.isDigit = true
  fraction_ne_nil : fraction ≠ []
  fraction_zero : fraction.getLast? = some '0' → fraction = ['0']
  fraction_length : fraction.length ≤ places

namespace Numeral

variable {places : ℕ}

def text (d : Numeral places) : List Char :=
  (if d.negative then ['-'] else []) ++ (d.whole ++ '.' :: d.fraction)

/-- The number without its sign. -/
def magnitude (d : Numeral places) : ℚ :=
  (Nat.ofDigitChars 10 (d.whole ++ d.fraction) 0 : ℕ) / 10 ^ d.fraction.length

def value (d : Numeral places) : ℚ :=
  signed d.negative d.magnitude

end Numeral

/-- The number at the beginning of a text: perhaps a minus sign, digits, a point and digits. -/
def denoted (cs : List Char) : ℚ :=
  let body := if cs.head? = some '-' then cs.tail else cs
  let whole := body.takeWhile Char.isDigit
  let fraction := ((body.dropWhile Char.isDigit).drop 1).takeWhile Char.isDigit
  let magnitude : ℚ := (Nat.ofDigitChars 10 (whole ++ fraction) 0 : ℕ) / 10 ^ fraction.length
  if cs.head? = some '-' then -magnitude else magnitude

/-- A digit before this text would be the last one. -/
def NoDigit (cs : List Char) : Prop :=
  ∀ c ∈ cs.head?, c.isDigit = false

private theorem takeWhile_digits {cs rest : List Char} (hcs : ∀ c ∈ cs, c.isDigit = true) (hrest : NoDigit rest) :
    (cs ++ rest).takeWhile Char.isDigit = cs := by
  rw [List.takeWhile_append_of_pos hcs]
  cases rest with
  | nil => simp
  | cons c rest => simp [hrest c rfl]

private theorem dropWhile_digits {cs rest : List Char} (hcs : ∀ c ∈ cs, c.isDigit = true) (hrest : NoDigit rest) :
    (cs ++ rest).dropWhile Char.isDigit = rest := by
  rw [List.dropWhile_append_of_pos hcs]
  cases rest with
  | nil => rfl
  | cons c rest => simp [hrest c rfl]

namespace Numeral

variable {places : ℕ} (d : Numeral places)

private theorem head?_text_append (rest : List Char) : (d.text ++ rest).head? = some '-' ↔ d.negative = true := by
  obtain ⟨c, cs, hwhole⟩ := List.exists_cons_of_ne_nil d.whole_ne_nil
  have hc : c.isDigit = true := d.whole_digits c (by simp [hwhole])
  rw [text, hwhole]
  cases d.negative with
  | true => simp
  | false =>
    simp only [Bool.false_eq_true, if_false, List.nil_append, List.cons_append, List.head?_cons, Option.some.injEq,
      iff_false]
    rintro rfl
    exact absurd hc (by decide)

/-- A numeral reads back as its value, whatever unit follows. -/
theorem denoted_text_append {rest : List Char} (hrest : NoDigit rest) : denoted (d.text ++ rest) = d.value := by
  have hpoint : NoDigit ('.' :: (d.fraction ++ rest)) := by
    intro c hc
    obtain rfl : '.' = c := by simpa using hc
    decide
  have hbody : (if (d.text ++ rest).head? = some '-' then (d.text ++ rest).tail else d.text ++ rest) =
      d.whole ++ '.' :: (d.fraction ++ rest) := by
    rw [if_congr (d.head?_text_append rest) rfl rfl, text]
    cases d.negative <;> simp
  unfold denoted
  dsimp only
  rw [hbody, takeWhile_digits d.whole_digits hpoint, dropWhile_digits d.whole_digits hpoint, List.drop_one,
    List.tail_cons, takeWhile_digits d.fraction_digits hrest, if_congr (d.head?_text_append rest) rfl rfl]
  rfl

end Numeral

/-! ### Values of digits -/

section Digits

variable {cs : List Char}

private theorem isDigit_of_mem_zeros (k : ℕ) : ∀ c ∈ List.replicate k '0', c.isDigit = true := by
  intro c hc
  rw [List.eq_of_mem_replicate hc]
  rfl

private theorem ofDigitChars_append_zero (l m : List Char) :
    Nat.ofDigitChars 10 (l ++ m) 0 = Nat.ofDigitChars 10 l 0 * 10 ^ m.length + Nat.ofDigitChars 10 m 0 := by
  rw [Nat.ofDigitChars_append, Nat.ofDigitChars_eq_ofDigitChars_zero, Nat.mul_comm]

private theorem digit_bounds {c : Char} (hc : c.isDigit = true) :
    c.toNat - '0'.toNat < 10 ∧ (c.toNat - '0'.toNat = 0 → c = '0') := by
  have hrange := Char.isDigit_iff_toNat.mp hc
  have hzero : '0'.toNat = 48 := rfl
  have hnine : '9'.toNat = 57 := rfl
  refine ⟨by omega, ?_⟩
  intro h
  apply Char.toNat_inj.mp
  omega

private theorem ofDigitChars_lt (hcs : ∀ c ∈ cs, c.isDigit = true) : Nat.ofDigitChars 10 cs 0 < 10 ^ cs.length := by
  induction cs using List.reverseRecOn with
  | nil => simp
  | append_singleton cs c ih =>
    have hc := (digit_bounds (hcs c (by simp))).1
    have := ih (fun x hx => hcs x (by simp [hx]))
    rw [ofDigitChars_append_zero, List.length_append, List.length_singleton, Nat.pow_succ, Nat.ofDigitChars_cons,
      Nat.ofDigitChars_nil]
    omega

private theorem not_dvd_ofDigitChars (hcs : ∀ c ∈ cs, c.isDigit = true) (hne : cs ≠ [])
    (hlast : cs.getLast? ≠ some '0') :
    ¬ 10 ∣ Nat.ofDigitChars 10 cs 0 := by
  obtain ⟨init, c, rfl⟩ := (List.eq_nil_or_concat cs).resolve_left hne
  have hc := digit_bounds (hcs c (by simp))
  have hzero : c ≠ '0' := by simpa using hlast
  rw [List.concat_eq_append, ofDigitChars_append_zero, Nat.ofDigitChars_cons, Nat.ofDigitChars_nil]
  intro hdvd
  apply hzero
  apply hc.2
  simp only [List.length_singleton, Nat.pow_one] at hdvd
  omega

private theorem pow_le_ofDigitChars (hcs : ∀ c ∈ cs, c.isDigit = true) (hne : cs ≠ []) (hhead : cs.head? ≠ some '0') :
    10 ^ (cs.length - 1) ≤ Nat.ofDigitChars 10 cs 0 := by
  obtain ⟨c, rest, rfl⟩ := List.exists_cons_of_ne_nil hne
  have hc := digit_bounds (hcs c (by simp))
  have hzero : c ≠ '0' := by simpa using hhead
  have hpos : 1 ≤ c.toNat - '0'.toNat := Nat.one_le_iff_ne_zero.mpr fun h => hzero (hc.2 h)
  rw [Nat.ofDigitChars_cons, Nat.ofDigitChars_eq_ofDigitChars_zero, Nat.mul_zero, Nat.zero_add, List.length_cons,
    Nat.add_sub_cancel]
  calc 10 ^ rest.length = 10 ^ rest.length * 1 := (Nat.mul_one _).symm
    _ ≤ 10 ^ rest.length * (c.toNat - '0'.toNat) := Nat.mul_le_mul_left _ hpos
    _ ≤ _ := Nat.le_add_right _ _

end Digits

/-! ### Significant digits -/

/-- The digits of `v` without zeros at either end, and the place of the point from the left of the first digit. -/
structure IsSignificant (cs : List Char) (point : ℤ) (v : ℚ) : Prop where
  digits : ∀ c ∈ cs, c.isDigit = true
  ne_nil : cs ≠ []
  head?_ne : cs.head? ≠ some '0'
  getLast?_ne : cs.getLast? ≠ some '0'
  value_eq : v = (Nat.ofDigitChars 10 cs 0 : ℕ) * 10 ^ (point - cs.length)

private theorem dropTrailingZeros_cases {cs : List Char} (hne : cs ≠ []) (hhead : cs.head? ≠ some '0') :
    ∃ k, cs = dropTrailingZeros cs ++ List.replicate k '0' ∧ dropTrailingZeros cs ≠ [] ∧
      (dropTrailingZeros cs).getLast? ≠ some '0' := by
  have hkept : cs.rdropWhile (· == '0') ≠ [] := by
    intro hnil
    obtain ⟨c, rest, rfl⟩ := List.exists_cons_of_ne_nil hne
    have := List.rdropWhile_eq_nil_iff.mp hnil c (by simp)
    exact hhead (by simpa using this)
  have heq : dropTrailingZeros cs = cs.rdropWhile (· == '0') := by
    unfold dropTrailingZeros
    split
    · rename_i hnil
      exact absurd hnil hkept
    · rfl
  have hzeros : cs.rtakeWhile (· == '0') = List.replicate (cs.rtakeWhile (· == '0')).length '0' := by
    apply List.eq_replicate_of_mem
    intro c hc
    simpa using List.mem_rtakeWhile_imp hc
  rw [heq]
  refine ⟨(cs.rtakeWhile (· == '0')).length, ?_, hkept, ?_⟩
  · rw [← hzeros, List.rdropWhile_append_rtakeWhile]
  · rw [List.getLast?_eq_some_getLast hkept, ne_eq, Option.some.injEq]
    simpa using List.rdropWhile_last_not (· == '0') cs hkept

private theorem isSignificant_significant {d : ShortDecimal} (hd : 0 < d.digits) :
    IsSignificant d.significant.1 d.significant.2 d.value := by
  have hhead : (Nat.toDigits 10 d.digits).head? ≠ some '0' := fun h => hd.ne' (Json.head?_toDigits _ h)
  obtain ⟨k, hsplit, hne, hlast⟩ := dropTrailingZeros_cases Nat.toDigits_ne_nil hhead
  unfold ShortDecimal.significant
  dsimp only
  generalize dropTrailingZeros (Nat.toDigits 10 d.digits) = kept at *
  have hdigits : ∀ c ∈ Nat.toDigits 10 d.digits, c.isDigit = true :=
    fun c hc => Nat.isDigit_of_mem_toDigits (by decide) (by decide) hc
  refine ⟨?_, hne, ?_, hlast, ?_⟩
  · intro c hc
    apply hdigits
    rw [hsplit]
    exact List.mem_append_left _ hc
  · rwa [hsplit, List.head?_append_of_ne_nil _ hne] at hhead
  · have hvalue : d.digits = Nat.ofDigitChars 10 kept 0 * 10 ^ k := by
      have h := Nat.ofDigitChars_ten_toDigits (n := d.digits)
      rw [hsplit, ofDigitChars_append_zero, Nat.ofDigitChars_replicate_zero, List.length_replicate] at h
      omega
    have hpoint : d.scale + (kept ++ List.replicate k '0').length - kept.length = k + d.scale := by
      rw [List.length_append, List.length_replicate]
      push_cast
      ring
    rw [ShortDecimal.value, hsplit, hpoint, hvalue, zpow_add₀ (by norm_num), zpow_natCast]
    push_cast
    ring

namespace IsSignificant

variable {cs : List Char} {point : ℤ} {v : ℚ} (h : IsSignificant cs point v)

include h

private theorem length_pos : 0 < cs.length :=
  List.length_pos_iff.mpr h.ne_nil

theorem bounds : (10 : ℚ) ^ (point - 1) ≤ v ∧ v < 10 ^ point := by
  have hlength := h.length_pos
  have hpos : (0 : ℚ) < 10 ^ (point - cs.length) := by positivity
  rw [h.value_eq]
  constructor
  · calc (10 : ℚ) ^ (point - 1) = 10 ^ (cs.length - 1) * 10 ^ (point - cs.length) := by
          rw [← zpow_natCast, ← zpow_add₀ (by norm_num)]
          congr 1
          omega
      _ ≤ _ := by
          gcongr
          exact_mod_cast pow_le_ofDigitChars h.digits h.ne_nil h.head?_ne
  · calc _ < (10 : ℚ) ^ cs.length * 10 ^ (point - cs.length) := by
          gcongr
          exact_mod_cast ofDigitChars_lt h.digits
      _ = 10 ^ point := by
          rw [← zpow_natCast, ← zpow_add₀ (by norm_num), add_sub_cancel]

/-- There are no more digits behind the point than the value needs. -/
theorem length_sub_le {places : ℕ} (hgrid : OnGrid (-places) v) : (cs.length : ℤ) - point ≤ places := by
  obtain ⟨k, hk⟩ := hgrid
  by_contra hlt
  apply not_dvd_ofDigitChars h.digits h.ne_nil h.getLast?_ne
  have hpow : (10 : ℚ) ^ (-(places : ℤ)) = 10 ^ (cs.length - point - places).toNat * 10 ^ (point - cs.length) := by
    rw [← zpow_natCast, ← zpow_add₀ (by norm_num)]
    congr 1
    omega
  have hten : (10 : ℚ) ^ (point - cs.length) ≠ 0 := by positivity
  rw [h.value_eq, hpow, ← mul_assoc, mul_left_inj' hten] at hk
  have hnat : Nat.ofDigitChars 10 cs 0 = k * 10 ^ (cs.length - point - places).toNat := by exact_mod_cast hk
  rw [hnat]
  exact Dvd.dvd.mul_left (dvd_pow_self 10 (by omega)) k

private theorem value_eq_div {k : ℕ} (hk : (k : ℤ) = cs.length - point) :
    v = (Nat.ofDigitChars 10 cs 0 : ℕ) / 10 ^ k := by
  rw [h.value_eq, div_eq_mul_inv, ← zpow_natCast, ← zpow_neg]
  congr 2
  omega

/-! One numeral for each place of the point: before the digits, behind them and between them. -/

variable {places : ℕ} (negative : Bool)

private theorem exists_numeral_before (hlength : (cs.length : ℤ) - point ≤ places) (hpoint : point ≤ 0) :
    ∃ d : Numeral places, d.negative = negative ∧ d.magnitude = v ∧
      d.whole ++ '.' :: d.fraction = '0' :: '.' :: List.replicate (-point).toNat '0' ++ cs := by
  have hlast : (List.replicate (-point).toNat '0' ++ cs).getLast? = cs.getLast? := by
    rw [List.getLast?_append_of_ne_nil _ h.ne_nil]
  refine ⟨⟨negative, ['0'], List.replicate (-point).toNat '0' ++ cs, by simp, by simp, by simp, ?_,
    by simp [h.ne_nil], ?_, ?_⟩, rfl, ?_, by simp⟩
  · exact List.forall_mem_append.mpr ⟨isDigit_of_mem_zeros _, h.digits⟩
  · intro hzero
    exact absurd (hlast ▸ hzero) h.getLast?_ne
  · rw [List.length_append, List.length_replicate]
    omega
  · have hvalue : Nat.ofDigitChars 10 (['0'] ++ (List.replicate (-point).toNat '0' ++ cs)) 0 =
        Nat.ofDigitChars 10 cs 0 := by
      rw [List.singleton_append, ← List.cons_append, ← List.replicate_succ, ofDigitChars_append_zero,
        Nat.ofDigitChars_replicate_zero, Nat.mul_zero, Nat.zero_mul, Nat.zero_add]
    rw [Numeral.magnitude]
    dsimp only
    rw [hvalue]
    apply (h.value_eq_div _).symm
    rw [List.length_append, List.length_replicate]
    omega

private theorem exists_numeral_behind (hplaces : 0 < places) (hpoint : cs.length ≤ point.toNat) :
    ∃ d : Numeral places, d.negative = negative ∧ d.magnitude = v ∧
      d.whole ++ '.' :: d.fraction = cs ++ List.replicate (point.toNat - cs.length) '0' ++ ['.', '0'] := by
  have hhead : (cs ++ List.replicate (point.toNat - cs.length) '0').head? = cs.head? :=
    List.head?_append_of_ne_nil _ h.ne_nil
  refine ⟨⟨negative, cs ++ List.replicate (point.toNat - cs.length) '0', ['0'], ?_, by simp [h.ne_nil], ?_, by simp,
    by simp, by simp, hplaces⟩, rfl, ?_, rfl⟩
  · exact List.forall_mem_append.mpr ⟨h.digits, isDigit_of_mem_zeros _⟩
  · intro hzero
    exact absurd (hhead ▸ hzero) h.head?_ne
  · have hlength := h.length_pos
    have hexponent : point - cs.length = (point.toNat - cs.length : ℕ) := by omega
    rw [Numeral.magnitude]
    dsimp only
    rw [ofDigitChars_append_zero, ofDigitChars_append_zero, Nat.ofDigitChars_replicate_zero, List.length_replicate,
      h.value_eq, hexponent, zpow_natCast]
    simp [Nat.ofDigitChars_cons]

private theorem exists_numeral_between (hlength : (cs.length : ℤ) - point ≤ places) (hpos : 0 < point)
    (hpoint : point.toNat < cs.length) :
    ∃ d : Numeral places, d.negative = negative ∧ d.magnitude = v ∧
      d.whole ++ '.' :: d.fraction = cs.take point.toNat ++ '.' :: cs.drop point.toNat := by
  have hhead : (cs.take point.toNat).head? = cs.head? := by
    rw [List.head?_take, if_neg (by omega)]
  have hlast : (cs.drop point.toNat).getLast? = cs.getLast? := by
    rw [List.getLast?_drop, if_neg (by omega)]
  refine ⟨⟨negative, cs.take point.toNat, cs.drop point.toNat, fun c hc => h.digits c (List.mem_of_mem_take hc), ?_,
    ?_, fun c hc => h.digits c (List.mem_of_mem_drop hc), ?_, ?_, ?_⟩, rfl, ?_, rfl⟩
  · simp only [ne_eq, List.take_eq_nil_iff, not_or]
    exact ⟨by omega, h.ne_nil⟩
  · intro hzero
    exact absurd (hhead ▸ hzero) h.head?_ne
  · simp only [ne_eq, List.drop_eq_nil_iff]
    omega
  · intro hzero
    exact absurd (hlast ▸ hzero) h.getLast?_ne
  · rw [List.length_drop]
    omega
  · rw [Numeral.magnitude]
    dsimp only
    rw [List.take_append_drop]
    apply (h.value_eq_div _).symm
    rw [List.length_drop]
    omega

private theorem exists_numeral_positional (hplaces : 0 < places) (hgrid : OnGrid (-places) v) :
    ∃ d : Numeral places, d.negative = negative ∧ d.magnitude = v ∧
      d.whole ++ '.' :: d.fraction = positional cs point := by
  have hlength := h.length_sub_le hgrid
  unfold positional
  split_ifs with hbefore hbehind
  · exact h.exists_numeral_before negative hlength hbefore
  · exact h.exists_numeral_behind negative hplaces hbehind
  · exact h.exists_numeral_between negative hlength (by omega) (by omega)

end IsSignificant

/-! ### The layout -/

/-- A positive decimal within the reach of a layout is written as a numeral. -/
theorem exists_numeral_decimal (layout : Layout) {d : ShortDecimal} {places : ℕ} (negative : Bool) (hd : 0 < d.digits)
    (hplaces : 0 < places) (hgrid : OnGrid (-places) d.value) (hzeros : places ≤ layout.leadingZeros + 1)
    (hwhole : d.value < 10 ^ layout.wholeDigits) :
    ∃ n : Numeral places, n.negative = negative ∧ n.magnitude = d.value ∧
      n.whole ++ '.' :: n.fraction = layout.decimal d := by
  have hsig := isSignificant_significant hd
  unfold Layout.decimal
  generalize d.significant = significant at hsig
  obtain ⟨cs, point⟩ := significant
  dsimp only at hsig ⊢
  obtain ⟨hlow, hhigh⟩ := hsig.bounds
  have hzeros' : -(layout.leadingZeros : ℤ) ≤ point := by
    have hpos : 0 < d.value := lt_of_lt_of_le (by positivity) hlow
    obtain ⟨k, hk⟩ := hgrid
    have hk' : 1 ≤ k := by
      apply Nat.one_le_iff_ne_zero.mpr
      rintro rfl
      rw [hk, Nat.cast_zero, zero_mul] at hpos
      exact lt_irrefl _ hpos
    have hleast : (10 : ℚ) ^ (-(places : ℤ)) ≤ d.value := by
      rw [hk]
      exact le_mul_of_one_le_left (by positivity) (by exact_mod_cast hk')
    have := (zpow_lt_zpow_iff_right₀ (by norm_num)).mp (hleast.trans_lt hhigh)
    omega
  have hwhole' : point ≤ layout.wholeDigits := by
    rw [← zpow_natCast] at hwhole
    have := (zpow_lt_zpow_iff_right₀ (by norm_num)).mp (hlow.trans_lt hwhole)
    omega
  rw [if_pos ⟨hzeros', hwhole'⟩]
  exact hsig.exists_numeral_positional negative hplaces hgrid

end ClassOutline.Decimal
