import ClassOutline.Decimal.Shortest
import Mathlib.Algebra.Order.Field.Power
import Mathlib.Algebra.Order.Ring.Int
import Mathlib.Order.Interval.Set.OrdConnected
import Mathlib.Tactic.FieldSimp
import Mathlib.Tactic.Linarith
import Mathlib.Tactic.NormNum
import Mathlib.Tactic.Positivity
import Mathlib.Tactic.Ring

/-!
# The nearest number in double precision

Quotients of natural numbers are compared with numbers `m * 2 ^ e` as rational numbers. The nearest number to a
quotient is one that the quotient reads back as, and a quotient that is itself a number is kept.
-/
namespace ClassOutline.Decimal

/-! ### Halves to even -/

/-- `k` is a whole number nearest to `x`, the even one if two are equally near. -/
structure IsNearestEven (x : ℚ) (k : ℤ) : Prop where
  le_half : |x - k| ≤ 1 / 2
  even_of_half : |x - k| = 1 / 2 → Even k

namespace IsNearestEven

variable {x y : ℚ} {j k : ℤ}

theorem mono (hj : IsNearestEven x j) (hk : IsNearestEven y k) (h : x ≤ y) : j ≤ k := by
  by_contra hlt
  have hstep : (k : ℚ) + 1 ≤ j := by exact_mod_cast (by omega : k + 1 ≤ j)
  have hlow := (abs_le.mp hj.le_half).1
  have hhigh := (abs_le.mp hk.le_half).2
  -- both are then half a unit away from `x = y`, and one of two neighbours is odd
  have hj' : x - j = -(1 / 2) := by linarith
  have hk' : y - k = 1 / 2 := by linarith
  have hjk : j = k + 1 := by
    have : (j : ℚ) = k + 1 := by linarith
    exact_mod_cast this
  have hjeven : Even j := hj.even_of_half (by rw [hj']; norm_num)
  have hkeven : Even k := hk.even_of_half (by rw [hk']; norm_num)
  rw [hjk, Int.even_add_one] at hjeven
  exact hjeven hkeven

theorem of_lt (h : |x - k| < 1 / 2) : IsNearestEven x k :=
  ⟨h.le, fun hhalf => absurd hhalf h.ne⟩

private theorem of_even (h : |x - k| ≤ 1 / 2) (heven : Even k) : IsNearestEven x k :=
  ⟨h, fun _ => heven⟩

theorem neg (h : IsNearestEven x k) : IsNearestEven (-x) (-k) := by
  have habs : |-x - ((-k : ℤ) : ℚ)| = |x - k| := by
    rw [← abs_neg]
    push_cast
    ring_nf
  refine ⟨?_, ?_⟩
  · rw [habs]
    exact h.le_half
  · rw [habs]
    intro hhalf
    exact (h.even_of_half hhalf).neg

private theorem eq_of_intCast (h : IsNearestEven (j : ℚ) k) : k = j := by
  have hj : IsNearestEven (j : ℚ) j := ⟨by simp, by simp⟩
  exact le_antisymm (h.mono hj le_rfl) (hj.mono h le_rfl)

end IsNearestEven

theorem isNearestEven_roundHalfEven (num : ℕ) {den : ℕ} (hden : 0 < den) :
    IsNearestEven ((num : ℚ) / den) (roundHalfEven num den : ℕ) := by
  have hpos : (0 : ℚ) < den := by exact_mod_cast hden
  have hsplit : (num : ℚ) / den = (num / den : ℕ) + (num % den : ℕ) / (den : ℚ) := by
    rw [div_eq_iff hpos.ne', add_mul, div_mul_cancel₀ _ hpos.ne']
    exact_mod_cast (Nat.div_add_mod' num den).symm
  have hrest : (num % den : ℕ) / (den : ℚ) < 1 := by
    rw [div_lt_one hpos]
    exact_mod_cast Nat.mod_lt num hden
  rw [hsplit, roundHalfEven]
  generalize num / den = q at *
  generalize num % den = r at *
  have hr : (0 : ℚ) ≤ (r : ℚ) / den := by positivity
  split_ifs with hless hmore heven
  · apply IsNearestEven.of_lt
    have hlt : (r : ℚ) / den < 1 / 2 := by
      rw [div_lt_iff₀ hpos]
      have : (2 : ℚ) * r < den := by exact_mod_cast hless
      linarith
    rw [abs_lt]
    push_cast
    constructor <;> linarith
  · apply IsNearestEven.of_lt
    have hlt : 1 / 2 < (r : ℚ) / den := by
      rw [lt_div_iff₀ hpos]
      have : (den : ℚ) < 2 * r := by exact_mod_cast hmore
      linarith
    rw [abs_lt]
    push_cast
    constructor <;> linarith
  all_goals
    have htie : (r : ℚ) / den = 1 / 2 := by
      rw [div_eq_iff hpos.ne']
      have : (2 : ℚ) * r = den := by exact_mod_cast (by omega : 2 * r = den)
      linarith
    apply IsNearestEven.of_even
    · rw [abs_le, htie]
      push_cast
      constructor <;> linarith
    · rw [Int.even_iff]
      omega

/-! ### Powers as quotients -/

theorem zpow_eq_div_pow {b : ℚ} (hb : b ≠ 0) (e : ℤ) : b ^ e = b ^ e.toNat / b ^ (-e).toNat := by
  rw [← zpow_natCast, ← zpow_natCast, ← zpow_sub₀ hb]
  congr 1
  omega

namespace Binary64

theorem scaleDen_pos (e : ℤ) : 0 < scaleDen e := by
  simp [scaleDen]

theorem scaleNum_pos {n : ℕ} (hn : 0 < n) (e : ℤ) : 0 < scaleNum n e := by
  simpa [scaleNum] using hn

theorem cast_scaleDen_pos (e : ℤ) : (0 : ℚ) < scaleDen e := by
  exact_mod_cast scaleDen_pos e

theorem cast_scaleNum (n : ℕ) (e : ℤ) : (scaleNum n e : ℚ) = n * 2 ^ e * scaleDen e := by
  rw [zpow_eq_div_pow two_ne_zero]
  simp only [scaleNum, scaleDen, Nat.pow_eq, Nat.cast_mul, Nat.cast_pow, Nat.cast_ofNat]
  field_simp

/-- `m * 2 ^ e` with a significand of 53 bits, or with fewer bits and the least exponent. -/
structure IsForm (m : ℕ) (e : ℤ) : Prop where
  lt : m < 2 ^ 53
  least : minExponent ≤ e
  full : minExponent < e → 2 ^ 52 ≤ m

/-! ### The exponent of a quotient -/

variable {num den : ℕ} {x : ℚ} {m : ℕ} {e : ℤ}

private theorem scaled_lt_iff (hden : 0 < den) (c : ℕ) (e : ℤ) :
    num * scaleDen e < scaleNum den e * c ↔ (num : ℚ) / den < c * 2 ^ e := by
  have hpos : (0 : ℚ) < den := by exact_mod_cast hden
  have hscale := cast_scaleDen_pos e
  rw [div_lt_iff₀ hpos, ← mul_lt_mul_iff_of_pos_right hscale, ← Nat.cast_lt (α := ℚ)]
  push_cast
  rw [cast_scaleNum]
  ring_nf

/-- Between which powers of two a quotient lies. -/
theorem quotient_bounds (hnum : 0 < num) (hden : 0 < den) :
    (2 : ℚ) ^ ((num.log2 : ℤ) - den.log2 - 1) < (num : ℚ) / den ∧
      (num : ℚ) / den < (2 : ℚ) ^ ((num.log2 : ℤ) - den.log2 + 1) := by
  have hpos : (0 : ℚ) < den := by exact_mod_cast hden
  have hnum_le : (2 : ℚ) ^ num.log2 ≤ num := by exact_mod_cast Nat.log2_self_le hnum.ne'
  have hnum_lt : (num : ℚ) < 2 ^ (num.log2 + 1) := by exact_mod_cast Nat.lt_log2_self
  have hden_le : (2 : ℚ) ^ den.log2 ≤ den := by exact_mod_cast Nat.log2_self_le hden.ne'
  have hden_lt : (den : ℚ) < 2 ^ (den.log2 + 1) := by exact_mod_cast Nat.lt_log2_self
  constructor
  · rw [lt_div_iff₀ hpos]
    calc (2 : ℚ) ^ ((num.log2 : ℤ) - den.log2 - 1) * den
        < 2 ^ ((num.log2 : ℤ) - den.log2 - 1) * 2 ^ (den.log2 + 1) := by gcongr
      _ = 2 ^ num.log2 := by
        rw [← zpow_natCast, ← zpow_natCast, ← zpow_add₀ two_ne_zero]
        congr 1
        push_cast
        ring
      _ ≤ num := hnum_le
  · rw [div_lt_iff₀ hpos]
    calc (num : ℚ) < 2 ^ (num.log2 + 1) := hnum_lt
      _ = 2 ^ ((num.log2 : ℤ) - den.log2 + 1) * 2 ^ den.log2 := by
        rw [← zpow_natCast, ← zpow_natCast, ← zpow_add₀ two_ne_zero]
        congr 1
        push_cast
        ring
      _ ≤ 2 ^ ((num.log2 : ℤ) - den.log2 + 1) * den := by gcongr

/-- With the exponent `e` the significand of `x` has 53 bits, or fewer if the exponent is the least. -/
structure FitsExponent (x : ℚ) (e : ℤ) : Prop where
  least : minExponent ≤ e
  lt : x < 2 ^ 53 * 2 ^ e
  full : minExponent < e → 2 ^ 52 * 2 ^ e ≤ x

private theorem fitsExponent_exponentFor (hnum : 0 < num) (hden : 0 < den) :
    FitsExponent ((num : ℚ) / den) (exponentFor num den) := by
  obtain ⟨hlow, hhigh⟩ := quotient_bounds hnum hden
  unfold exponentFor
  extract_lets guess e
  have hlow' : (2 : ℚ) ^ 51 * 2 ^ guess < num / den := by
    rw [← zpow_natCast, ← zpow_add₀ two_ne_zero]
    convert hlow using 2
    omega
  have hhigh' : (num : ℚ) / den < 2 ^ 53 * 2 ^ guess := by
    rw [← zpow_natCast, ← zpow_add₀ two_ne_zero]
    convert hhigh using 2
    omega
  have hguess : num * scaleDen guess < scaleNum den guess * Nat.pow 2 52 ↔
      (num : ℚ) / den < 2 ^ 52 * 2 ^ guess := by
    rw [scaled_lt_iff hden, Nat.pow_eq, Nat.cast_pow, Nat.cast_ofNat]
  have hbits : (num : ℚ) / den < 2 ^ 53 * 2 ^ e ∧ 2 ^ 52 * 2 ^ e ≤ (num : ℚ) / den := by
    by_cases h : num * scaleDen guess < scaleNum den guess * Nat.pow 2 52
    · have he : e = guess - 1 := if_pos h
      have hhalf : (2 : ℚ) ^ guess = 2 * 2 ^ (guess - 1) := by
        rw [← zpow_one_add₀ two_ne_zero, add_sub_cancel]
      rw [hguess, hhalf] at h
      rw [hhalf] at hlow'
      rw [he]
      constructor <;> linarith
    · have he : e = guess := if_neg h
      rw [hguess, not_lt] at h
      rw [he]
      exact ⟨hhigh', h⟩
  refine ⟨le_max_right _ _, ?_, ?_⟩
  · calc (num : ℚ) / den < 2 ^ 53 * 2 ^ e := hbits.1
      _ ≤ 2 ^ 53 * 2 ^ max e minExponent := by
        gcongr
        · norm_num
        · exact le_max_left _ _
  · intro h
    rw [max_eq_left (by omega)]
    exact hbits.2

/-! ### What reads back -/

/-- How far below `m * 2 ^ e` a number may be to read back as it, in units of the last bit. The neighbour below a
power of two is only half a unit away. -/
def margin (m : ℕ) (e : ℤ) : ℚ :=
  if m = 2 ^ 52 ∧ minExponent < e then 1 / 4 else 1 / 2

/-- The numbers that read back as `m * 2 ^ e`, the ends included if `m` is even. -/
def readings (m : ℕ) (e : ℤ) : Set ℚ :=
  if m % 2 = 0 then Set.Icc ((m - margin m e) * 2 ^ e) ((m + 1 / 2) * 2 ^ e)
  else Set.Ioo ((m - margin m e) * 2 ^ e) ((m + 1 / 2) * 2 ^ e)

private theorem margin_pos (m : ℕ) (e : ℤ) : 0 < margin m e := by
  unfold margin
  split_ifs <;> norm_num

private theorem margin_le_half (m : ℕ) (e : ℤ) : margin m e ≤ 1 / 2 := by
  unfold margin
  split_ifs <;> norm_num

theorem ordConnected_readings (m : ℕ) (e : ℤ) : (readings m e).OrdConnected := by
  unfold readings
  split_ifs
  · exact Set.ordConnected_Icc
  · exact Set.ordConnected_Ioo

theorem bounds_of_mem_readings (h : x ∈ readings m e) :
    (m - 1 / 2) * 2 ^ e ≤ x ∧ x ≤ (m + 1 / 2) * 2 ^ e := by
  have hpos : (0 : ℚ) < 2 ^ e := by positivity
  have hlow : ((m : ℚ) - 1 / 2) * 2 ^ e ≤ (m - margin m e) * 2 ^ e := by
    gcongr
    exact margin_le_half m e
  unfold readings at h
  split_ifs at h
  · exact ⟨hlow.trans h.1, h.2⟩
  · exact ⟨hlow.trans h.1.le, h.2.le⟩

theorem self_mem_readings (m : ℕ) (e : ℤ) : (m : ℚ) * 2 ^ e ∈ readings m e := by
  have hpos : (0 : ℚ) < 2 ^ e := by positivity
  have hlow : (m - margin m e) * 2 ^ e < m * 2 ^ e := by
    gcongr
    exact sub_lt_self _ (margin_pos m e)
  have hhigh : (m : ℚ) * 2 ^ e < (m + 1 / 2) * 2 ^ e := by
    gcongr
    norm_num
  unfold readings
  split_ifs
  · exact ⟨hlow.le, hhigh.le⟩
  · exact ⟨hlow, hhigh⟩

theorem readsBack_iff (hm : 0 < m) (hden : 0 < den) :
    readsBack m e num den = true ↔ (num : ℚ) / den ∈ readings m e := by
  have hpos : (0 : ℚ) < den := by exact_mod_cast hden
  have hscale := cast_scaleDen_pos e
  unfold readsBack readings
  extract_lets below low high value
  have hbelow : (below : ℚ) = 4 * margin m e := by
    simp only [below, margin, Nat.pow_eq]
    split_ifs <;> norm_num
  have hle : below ≤ 4 * m := by
    have : below ≤ 2 := by
      simp only [below]
      split_ifs <;> omega
    omega
  have hlow : (low : ℚ) = (m - margin m e) * 2 ^ e * (den * (4 * scaleDen e)) := by
    simp only [low, Nat.cast_mul, cast_scaleNum, Nat.cast_sub hle, Nat.cast_ofNat, hbelow]
    ring
  have hhigh : (high : ℚ) = (m + 1 / 2) * 2 ^ e * (den * (4 * scaleDen e)) := by
    simp only [high, Nat.cast_mul, cast_scaleNum, Nat.cast_add, Nat.cast_ofNat]
    ring
  have hvalue : (value : ℚ) = (num : ℚ) / den * (den * (4 * scaleDen e)) := by
    simp only [value, Nat.cast_mul, Nat.cast_ofNat]
    field_simp
  have hfactor : (0 : ℚ) < den * (4 * scaleDen e) := by positivity
  split_ifs
  · rw [Bool.and_eq_true, decide_eq_true_eq, decide_eq_true_eq, Set.mem_Icc, ← Nat.cast_le (α := ℚ),
      ← Nat.cast_le (α := ℚ), hlow, hhigh, hvalue, mul_le_mul_iff_of_pos_right hfactor,
      mul_le_mul_iff_of_pos_right hfactor]
  · rw [Bool.and_eq_true, decide_eq_true_eq, decide_eq_true_eq, Set.mem_Ioo, ← Nat.cast_lt (α := ℚ),
      ← Nat.cast_lt (α := ℚ), hlow, hhigh, hvalue, mul_lt_mul_iff_of_pos_right hfactor,
      mul_lt_mul_iff_of_pos_right hfactor]

/-! ### The nearest number -/

private theorem isNearestEven_significand (num : ℕ) {den : ℕ} (hden : 0 < den) (e : ℤ) :
    IsNearestEven ((num : ℚ) / den / 2 ^ e) (roundHalfEven (num * scaleDen e) (scaleNum den e) : ℕ) := by
  have hpos : (0 : ℚ) < den := by exact_mod_cast hden
  have hscale := cast_scaleDen_pos e
  have hvalue : (num : ℚ) / den / 2 ^ e = (num * scaleDen e : ℕ) / (scaleNum den e : ℕ) := by
    rw [Nat.cast_mul, cast_scaleNum]
    field_simp
  rw [hvalue]
  exact isNearestEven_roundHalfEven _ (scaleNum_pos hden e)

private theorem mem_readings_of_isNearestEven (hfits : FitsExponent x e) (hnear : IsNearestEven (x / 2 ^ e) (m : ℕ)) :
    x ∈ readings m e := by
  have hpos : (0 : ℚ) < 2 ^ e := by positivity
  obtain ⟨u, rfl⟩ : ∃ u, x = u * 2 ^ e := ⟨x / 2 ^ e, (div_mul_cancel₀ _ hpos.ne').symm⟩
  rw [mul_div_cancel_right₀ _ hpos.ne'] at hnear
  have hhalf := hnear.le_half
  rw [Int.cast_natCast] at hhalf
  unfold readings
  split_ifs with heven
  · obtain ⟨hlow, hhigh⟩ := abs_le.mp hhalf
    have hmargin : (m : ℚ) - margin m e ≤ u := by
      unfold margin
      split_ifs with h
      -- below a power of two the significand would have had another exponent
      · have hfull : (m : ℚ) ≤ u := by
          have hu := hfits.full h.2
          rw [mul_le_mul_iff_of_pos_right hpos] at hu
          rw [h.1]
          exact_mod_cast hu
        linarith
      · linarith
    constructor
    · gcongr
    · gcongr
      linarith
  · have hodd : ¬ Even ((m : ℕ) : ℤ) := by
      rw [Int.even_iff]
      omega
    have hlt : |u - m| < 1 / 2 := lt_of_le_of_ne hhalf fun h => hodd (hnear.even_of_half h)
    obtain ⟨hlow, hhigh⟩ := abs_lt.mp hlt
    have hmargin : margin m e = 1 / 2 := by
      apply if_neg
      rintro ⟨rfl, -⟩
      exact heven (by norm_num)
    constructor
    · rw [hmargin]
      gcongr
      linarith
    · gcongr
      linarith

/-- A carry leaves a power of two with twice the unit. -/
theorem mem_readings_of_carry (hfits : FitsExponent x e) (hnear : IsNearestEven (x / 2 ^ e) (2 ^ 53 : ℕ)) :
    x ∈ readings (2 ^ 52) (e + 1) := by
  have hpos : (0 : ℚ) < 2 ^ e := by positivity
  have hdouble : (2 : ℚ) ^ (e + 1) = 2 * 2 ^ e := by
    rw [zpow_add_one₀ two_ne_zero, mul_comm]
  have hmargin : margin (2 ^ 52) (e + 1) = 1 / 4 := if_pos ⟨rfl, Int.lt_add_one_of_le hfits.least⟩
  have hlow := (abs_le.mp hnear.le_half).1
  rw [le_sub_iff_add_le, le_div_iff₀ hpos] at hlow
  have hhigh := hfits.lt
  rw [readings, if_pos (by norm_num), hmargin, hdouble]
  push_cast at hlow ⊢
  constructor <;> linarith

private theorem nearest?_of_pos (hnum : 0 < num) (den : ℕ) (he : exponentFor num den = e)
    (hm : roundHalfEven (num * scaleDen e) (scaleNum den e) = m) :
    nearest? num den =
      if m = 2 ^ 53 then (if maxExponent < e + 1 then none else some (2 ^ 52, e + 1))
      else if maxExponent < e then none else some (m, e) := by
  have hwhole : Nat.pow 2 53 = 2 ^ 53 := Nat.pow_eq
  have hhalf : Nat.pow 2 52 = 2 ^ 52 := Nat.pow_eq
  rw [nearest?, if_neg hnum.ne', he]
  dsimp only
  rw [hm, hwhole, hhalf]
  by_cases hcarry : m = 2 ^ 53
  · rw [if_pos hcarry, if_pos hcarry]
  · rw [if_neg hcarry, if_neg hcarry]

private theorem nearest?_cases (hnum : 0 < num) (hden : 0 < den) :
    ∃ m e, IsForm m e ∧ (num : ℚ) / den ∈ readings m e ∧
      nearest? num den = if maxExponent < e then none else some (m, e) := by
  have hfits := fitsExponent_exponentFor hnum hden
  have hnear := isNearestEven_significand num hden (exponentFor num den)
  rw [nearest?_of_pos hnum den rfl rfl]
  generalize exponentFor num den = e at hfits hnear
  generalize roundHalfEven (num * scaleDen e) (scaleNum den e) = m at hnear
  have hpos : (0 : ℚ) < 2 ^ e := by positivity
  have hle : m ≤ 2 ^ 53 := by
    have := hnear.mono (IsNearestEven.of_lt (k := 2 ^ 53) (by norm_num)) ((div_le_iff₀ hpos).mpr hfits.lt.le)
    exact_mod_cast this
  by_cases hcarry : m = 2 ^ 53
  · subst hcarry
    refine ⟨2 ^ 52, e + 1, ⟨by norm_num, by have := hfits.least; omega, fun _ => le_rfl⟩,
      mem_readings_of_carry hfits hnear, ?_⟩
    rw [if_pos rfl]
  · refine ⟨m, e, ⟨by omega, hfits.least, ?_⟩, mem_readings_of_isNearestEven hfits hnear, ?_⟩
    · intro hleast
      have hfull := (le_div_iff₀ hpos).mpr (hfits.full hleast)
      have := (IsNearestEven.of_lt (x := 2 ^ 52) (k := 2 ^ 52) (by norm_num)).mono hnear hfull
      exact_mod_cast this
    · rw [if_neg hcarry]

/-- Far from the ends of the range the nearest number has a significand of 53 bits. -/
theorem exists_nearest?_eq_some (hden : 0 < den) (hlow : (2 : ℚ) ^ (-64 : ℤ) ≤ (num : ℚ) / den)
    (hhigh : (num : ℚ) / den ≤ 2 ^ (64 : ℤ)) :
    ∃ m e, nearest? num den = some (m, e) ∧ 2 ^ 52 ≤ m ∧ (num : ℚ) / den ∈ readings m e := by
  have hnum : 0 < num := by
    apply Nat.pos_of_ne_zero
    rintro rfl
    rw [Nat.cast_zero, zero_div] at hlow
    exact absurd hlow (not_le.mpr (by positivity))
  obtain ⟨m, e, hform, hmem, heq⟩ := nearest?_cases hnum hden
  obtain ⟨hge, hle⟩ := bounds_of_mem_readings hmem
  have hpos : (0 : ℚ) < 2 ^ e := by positivity
  have hleast : minExponent < e := by
    have hlt : (m : ℚ) + 1 / 2 < 2 ^ (54 : ℤ) := by
      have : (m : ℚ) < 2 ^ 53 := by exact_mod_cast hform.lt
      linarith
    have hlow' : (2 : ℚ) ^ (-64 : ℤ) < 2 ^ (54 + e) :=
      calc (2 : ℚ) ^ (-64 : ℤ) ≤ (m + 1 / 2) * 2 ^ e := hlow.trans hle
        _ < 2 ^ (54 : ℤ) * 2 ^ e := by gcongr
        _ = 2 ^ (54 + e) := by rw [zpow_add₀ two_ne_zero]
    have := (zpow_lt_zpow_iff_right₀ one_lt_two).mp hlow'
    unfold minExponent
    omega
  have hfull := hform.full hleast
  have hmost : ¬ maxExponent < e := by
    have hgt : (1 : ℚ) ≤ m - 1 / 2 := by
      have hm : (2 : ℚ) ^ 52 ≤ m := by exact_mod_cast hfull
      linarith
    have hhigh' : (2 : ℚ) ^ e ≤ 2 ^ (64 : ℤ) :=
      calc (2 : ℚ) ^ e ≤ (m - 1 / 2) * 2 ^ e := le_mul_of_one_le_left hpos.le hgt
        _ ≤ 2 ^ (64 : ℤ) := hge.trans hhigh
    have := (zpow_le_zpow_iff_right₀ one_lt_two).mp hhigh'
    unfold maxExponent
    omega
  rw [if_neg hmost] at heq
  exact ⟨m, e, heq, hfull, hmem⟩

/-- A quotient that is a number in double precision is kept. -/
theorem exists_nearest?_of_eq {a : ℕ} {b : ℤ} (hden : 0 < den) (ha : a < 2 ^ 53) (hb : minExponent ≤ b)
    (hb' : b ≤ maxExponent) (h : (num : ℚ) / den = a * 2 ^ b) :
    ∃ m e, nearest? num den = some (m, e) ∧ (m : ℚ) * 2 ^ e = num / den := by
  rcases Nat.eq_zero_or_pos num with rfl | hnum
  · exact ⟨0, minExponent, rfl, by simp⟩
  have hfits := fitsExponent_exponentFor hnum hden
  have hnear := isNearestEven_significand num hden (exponentFor num den)
  have heq := nearest?_of_pos hnum den rfl rfl
  generalize exponentFor num den = e at hfits hnear heq
  generalize roundHalfEven (num * scaleDen e) (scaleNum den e) = m at hnear heq
  have hpos : (0 : ℚ) < 2 ^ e := by positivity
  have ha' : (a : ℚ) < 2 ^ 53 := by exact_mod_cast ha
  -- with a greater exponent than `b` the quotient would be at least `2 ^ 53 * 2 ^ b`
  have heb : e ≤ b := by
    by_contra hlt
    have hfull := hfits.full (by omega)
    have hstep : (2 : ℚ) * 2 ^ b ≤ 2 ^ e := by
      rw [← zpow_one_add₀ two_ne_zero]
      exact zpow_le_zpow_right₀ one_le_two (by omega)
    have : (a : ℚ) * 2 ^ b < 2 ^ 53 * 2 ^ b := by gcongr
    linarith
  have hwhole : (num : ℚ) / den / 2 ^ e = ((a * 2 ^ (b - e).toNat : ℕ) : ℤ) := by
    rw [div_eq_iff hpos.ne', h]
    push_cast
    rw [mul_assoc, ← zpow_natCast, ← zpow_add₀ two_ne_zero]
    congr 2
    omega
  rw [hwhole] at hnear
  have hm : (m : ℚ) * 2 ^ e = num / den := by
    rw [← eq_div_iff hpos.ne', hwhole, ← hnear.eq_of_intCast, Int.cast_natCast]
  have hcarry : m ≠ 2 ^ 53 := by
    rintro rfl
    have := hfits.lt
    rw [← hm] at this
    push_cast at this
    exact lt_irrefl _ this
  rw [if_neg hcarry, if_neg (by omega)] at heq
  exact ⟨m, e, heq, hm⟩

end Binary64

end ClassOutline.Decimal
