import ClassOutline.Proofs.NearestNumbers

/-!
# The shortest decimal of a number

A decimal of at most fifteen digits is the only one of its length that reads back as the nearest number to it, so
it is the shortest decimal of that number.
-/
namespace ClassOutline.Decimal

/-- The number that a decimal stands for. -/
def ShortDecimal.value (d : ShortDecimal) : ℚ :=
  d.digits * 10 ^ d.scale

/-! ### The place of the point -/

private theorem decimalLength_pos (n : ℕ) : 0 < decimalLength n :=
  Nat.length_toDigits_pos

private theorem lt_pow_decimalLength (n : ℕ) : n < 10 ^ decimalLength n :=
  (Nat.length_toDigits_le_iff (by decide) (decimalLength_pos n)).mp le_rfl

private theorem pow_decimalLength_le {n : ℕ} (hn : 0 < n) : 10 ^ (decimalLength n - 1) ≤ n := by
  rcases Nat.eq_zero_or_pos (decimalLength n - 1) with h | h
  · rw [h, Nat.pow_zero]
    exact hn
  · by_contra hlt
    have hle : decimalLength n ≤ decimalLength n - 1 := (Nat.length_toDigits_le_iff (by decide) h).mpr (by omega)
    omega

private theorem decimalPoint_bounds {num den : ℕ} (hnum : 0 < num) (hden : 0 < den) :
    (10 : ℚ) ^ (decimalPoint num den - 1) ≤ (num : ℚ) / den ∧ (num : ℚ) / den < 10 ^ decimalPoint num den := by
  have hpos : (0 : ℚ) < den := by exact_mod_cast hden
  unfold decimalPoint
  split_ifs with hle
  · have hlow := pow_decimalLength_le (Nat.div_pos hle hden)
    have hhigh := lt_pow_decimalLength (num / den)
    have hlength := decimalLength_pos (num / den)
    generalize decimalLength (num / den) = length at *
    constructor
    · rw [le_div_iff₀ hpos]
      have hnat : 10 ^ (length - 1) * den ≤ num := (Nat.le_div_iff_mul_le hden).mp hlow
      rw [show (length : ℤ) - 1 = (length - 1 : ℕ) by omega, zpow_natCast]
      exact_mod_cast hnat
    · rw [div_lt_iff₀ hpos, zpow_natCast]
      exact_mod_cast (Nat.div_lt_iff_lt_mul hden).mp hhigh
  · have hlow := pow_decimalLength_le (Nat.div_pos (show num ≤ den - 1 by omega) hnum)
    have hhigh := lt_pow_decimalLength ((den - 1) / num)
    have hlength := decimalLength_pos ((den - 1) / num)
    generalize decimalLength ((den - 1) / num) = length at *
    rw [Nat.le_div_iff_mul_le hnum] at hlow
    rw [Nat.div_lt_iff_lt_mul hnum] at hhigh
    constructor
    · rw [show (1 : ℤ) - length - 1 = -(length : ℤ) by ring, zpow_neg, zpow_natCast,
        inv_le_iff_one_le_mul₀ (by positivity), div_mul_eq_mul_div, one_le_div hpos]
      have hnat : den ≤ num * 10 ^ length := by
        rw [Nat.mul_comm]
        omega
      exact_mod_cast hnat
    · rw [div_lt_iff₀ hpos, show (1 : ℤ) - length = -(length - 1 : ℕ) by omega, zpow_neg, zpow_natCast,
        lt_inv_mul_iff₀ (by positivity)]
      have hnat : 10 ^ (length - 1) * num < den := by omega
      exact_mod_cast hnat

/-! ### Grids of decimals -/

/-- `x` is a multiple of a power of ten. -/
def OnGrid (scale : ℤ) (x : ℚ) : Prop :=
  ∃ k : ℕ, x = k * 10 ^ scale

private theorem OnGrid.finer {s t : ℤ} {x : ℚ} (h : OnGrid s x) (hts : t ≤ s) : OnGrid t x := by
  obtain ⟨k, rfl⟩ := h
  refine ⟨k * 10 ^ (s - t).toNat, ?_⟩
  push_cast
  rw [mul_assoc, ← zpow_natCast, ← zpow_add₀ (by norm_num)]
  congr 2
  omega

private theorem OnGrid.eq_of_near {s : ℤ} {x y : ℚ} (hx : OnGrid s x) (hy : OnGrid s y) (h : |x - y| < 10 ^ s) :
    x = y := by
  obtain ⟨j, rfl⟩ := hx
  obtain ⟨k, rfl⟩ := hy
  have hpos : (0 : ℚ) < 10 ^ s := by positivity
  rw [← sub_mul, abs_mul, abs_of_pos hpos, mul_lt_iff_lt_one_left hpos] at h
  have hjk : |(j : ℤ) - k| < 1 := by exact_mod_cast h
  have : (j : ℤ) = k := by
    rw [Int.abs_lt_one_iff] at hjk
    omega
  rw [show (j : ℚ) = k by exact_mod_cast this]

/-! ### Decimals with a given number of digits -/

private theorem roundHalfEven_eq_or (num den : ℕ) :
    roundHalfEven num den = num / den ∨ roundHalfEven num den = num / den + 1 := by
  unfold roundHalfEven
  dsimp only
  split_ifs <;> simp

namespace Binary64

variable {m : ℕ} {e : ℤ}

/-- The place of the point of `m * 2 ^ e`. -/
def pointOf (m : ℕ) (e : ℤ) : ℤ :=
  decimalPoint (scaleNum m e) (scaleDen e)

theorem scaleNum_div_scaleDen (m : ℕ) (e : ℤ) : (scaleNum m e : ℚ) / scaleDen e = m * 2 ^ e := by
  rw [cast_scaleNum, mul_div_cancel_right₀ _ (cast_scaleDen_pos e).ne']

private theorem pointOf_bounds (hm : 0 < m) (e : ℤ) :
    (10 : ℚ) ^ (pointOf m e - 1) ≤ m * 2 ^ e ∧ (m : ℚ) * 2 ^ e < 10 ^ pointOf m e := by
  have h := decimalPoint_bounds (scaleNum_pos hm e) (scaleDen_pos e)
  rwa [scaleNum_div_scaleDen] at h

private theorem readsBack_decimal_iff (hm : 0 < m) (digits : ℕ) (scale : ℤ) :
    readsBack m e (digits * Nat.pow 10 scale.toNat) (Nat.pow 10 (-scale).toNat) = true ↔
      (digits : ℚ) * 10 ^ scale ∈ readings m e := by
  rw [readsBack_iff hm (by simp), zpow_eq_div_pow (by norm_num) scale]
  simp only [Nat.pow_eq, Nat.cast_mul, Nat.cast_pow, Nat.cast_ofNat, mul_div_assoc]

/-- The two neighbours of `m * 2 ^ e` on a grid. -/
theorem grid_bounds (m : ℕ) (e scale : ℤ) :
    let low := scaleNum m e * Nat.pow 10 (-scale).toNat / (scaleDen e * Nat.pow 10 scale.toNat)
    (low : ℚ) * 10 ^ scale ≤ m * 2 ^ e ∧ (m : ℚ) * 2 ^ e < (low + 1 : ℕ) * 10 ^ scale := by
  intro low
  have hscale := cast_scaleDen_pos e
  have hpos : 0 < scaleDen e * Nat.pow 10 scale.toNat := Nat.mul_pos (scaleDen_pos e) (by simp)
  rw [zpow_eq_div_pow (by norm_num) scale, ← scaleNum_div_scaleDen, mul_div_assoc', mul_div_assoc',
    div_le_div_iff₀ (by positivity) hscale, div_lt_div_iff₀ hscale (by positivity)]
  have hlow : low * (scaleDen e * Nat.pow 10 scale.toNat) ≤ scaleNum m e * Nat.pow 10 (-scale).toNat :=
    Nat.div_mul_le_self _ _
  have hhigh : scaleNum m e * Nat.pow 10 (-scale).toNat < (low + 1) * (scaleDen e * Nat.pow 10 scale.toNat) :=
    Nat.lt_mul_of_div_lt (Nat.lt_succ_self _) hpos
  have hlow' : (low : ℚ) * (scaleDen e * 10 ^ scale.toNat) ≤ scaleNum m e * 10 ^ (-scale).toNat := by
    exact_mod_cast hlow
  have hhigh' : (scaleNum m e : ℚ) * 10 ^ (-scale).toNat < (low + 1 : ℕ) * (scaleDen e * 10 ^ scale.toNat) := by
    exact_mod_cast hhigh
  constructor <;> linarith

private theorem mem_readings_of_withDigits? {n : ℕ} {d : ShortDecimal} (hm : 0 < m) (h : withDigits? m e n = some d) :
    d.scale = pointOf m e - n ∧ d.value ∈ readings m e := by
  unfold withDigits? at h
  extract_lets num den scale gridNum gridDen low fits at h
  have hfits (digits : ℕ) (hdigits : fits digits = true) : (digits : ℚ) * 10 ^ scale ∈ readings m e :=
    (readsBack_decimal_iff hm digits scale).mp hdigits
  split at h
  · rename_i hlow hhigh
    obtain rfl := Option.some.inj h
    refine ⟨rfl, hfits _ ?_⟩
    rcases roundHalfEven_eq_or gridNum gridDen with heq | heq
    · rw [heq]
      exact hlow
    · rw [heq]
      exact hhigh
  · rename_i hlow _
    obtain rfl := Option.some.inj h
    exact ⟨rfl, hfits _ hlow⟩
  · rename_i _ hhigh
    obtain rfl := Option.some.inj h
    exact ⟨rfl, hfits _ hhigh⟩
  · cases h

/-- If a point of a grid reads back, so does the neighbour of the number on the same side. -/
theorem exists_withDigits? {n : ℕ} {x : ℚ} (hm : 0 < m) (hgrid : OnGrid (pointOf m e - n) x)
    (hx : x ∈ readings m e) : ∃ d, withDigits? m e n = some d := by
  unfold withDigits?
  extract_lets num den scale gridNum gridDen low fits
  have hfits (digits : ℕ) : fits digits = true ↔ (digits : ℚ) * 10 ^ scale ∈ readings m e :=
    readsBack_decimal_iff hm digits scale
  obtain ⟨hlow, hhigh⟩ : (low : ℚ) * 10 ^ scale ≤ m * 2 ^ e ∧ (m : ℚ) * 2 ^ e < (low + 1 : ℕ) * 10 ^ scale :=
    grid_bounds m e scale
  have hpos : (0 : ℚ) < 10 ^ scale := by positivity
  obtain ⟨k, rfl⟩ : ∃ k : ℕ, x = k * 10 ^ scale := hgrid
  have hself := self_mem_readings m e
  have hside : fits low = true ∨ fits (low + 1) = true := by
    rw [hfits, hfits]
    rcases Nat.lt_or_ge low k with hk | hk
    · right
      apply (ordConnected_readings m e).out hself hx
      refine ⟨hhigh.le, ?_⟩
      gcongr
      omega
    · left
      apply (ordConnected_readings m e).out hx hself
      refine ⟨?_, hlow⟩
      gcongr
  split
  · exact ⟨_, rfl⟩
  · exact ⟨_, rfl⟩
  · exact ⟨_, rfl⟩
  · rename_i hlow hhigh
    rw [hlow, hhigh] at hside
    simp at hside

/-! ### The shortest decimal -/

/-- The search ends at the latest with the first number of digits that is known to do. -/
theorem shortest_cases {n : ℕ} {d : ShortDecimal} (hpos : 0 < n) (hle : n ≤ 17) (h : withDigits? m e n = some d) :
    ∃ k ≤ n, withDigits? m e k = some (shortest m e) := by
  have hmem : n ∈ List.range' 1 17 := by
    rw [List.mem_range'_1]
    omega
  cases hfind : (List.range' 1 17).findSome? (withDigits? m e) with
  | none =>
    rw [List.findSome?_eq_none_iff.mp hfind n hmem] at h
    cases h
  | some found =>
    obtain ⟨before, k, after, hsplit, hk, hbefore⟩ := List.findSome?_eq_some_iff.mp hfind
    refine ⟨k, ?_, ?_⟩
    · have hsorted : (before ++ k :: after).Pairwise (· < ·) := hsplit ▸ List.pairwise_lt_range'
      rw [hsplit, List.mem_append, List.mem_cons] at hmem
      rcases hmem with hmem | rfl | hmem
      · rw [hbefore n hmem] at h
        cases h
      · exact le_rfl
      · exact (List.rel_of_pairwise_cons (List.pairwise_append.mp hsorted).2.1 hmem).le
    · rw [hk, shortest, hfind, Option.getD_some]

/-- On a grid that is wider than the last bit there is no second decimal that reads back. -/
theorem eq_of_mem_readings {s : ℤ} {x y : ℚ} (hx : x ∈ readings m e) (hy : y ∈ readings m e) (hgx : OnGrid s x)
    (hgy : OnGrid s y) (hs : (2 : ℚ) ^ e < 10 ^ s) : x = y := by
  obtain ⟨hxlow, hxhigh⟩ := bounds_of_mem_readings hx
  obtain ⟨hylow, hyhigh⟩ := bounds_of_mem_readings hy
  apply hgx.eq_of_near hgy
  apply lt_of_le_of_lt _ hs
  rw [abs_le]
  constructor <;> linarith

section FullWidth

variable (hm : 2 ^ 52 ≤ m)

include hm

private theorem unit_le (e : ℤ) : (2 : ℚ) ^ 52 * 2 ^ e ≤ m * 2 ^ e := by
  gcongr
  exact_mod_cast hm

private theorem unit_lt_leading (e : ℤ) : (2 : ℚ) ^ e < 10 ^ (pointOf m e - 1) := by
  have hhigh := (pointOf_bounds (by omega : 0 < m) e).2
  have hten : (10 : ℚ) ^ pointOf m e = 10 * 10 ^ (pointOf m e - 1) := by
    rw [← zpow_one_add₀ (by norm_num), add_sub_cancel]
  have hunit : (0 : ℚ) < 2 ^ e := by positivity
  have := unit_le hm e
  linarith

variable {digits : ℕ} {scale : ℤ} (hdigits : digits ≤ 10 ^ 15) (h : (digits : ℚ) * 10 ^ scale ∈ readings m e)

include hdigits h

/-- The number is hardly greater than the decimal. -/
theorem le_of_fifteen_digits : (m : ℚ) * 2 ^ e ≤ 2 * (10 ^ 15 * 10 ^ scale) := by
  have hunit : (0 : ℚ) < 2 ^ e := by positivity
  have hdigits' : (digits : ℚ) * 10 ^ scale ≤ 10 ^ 15 * 10 ^ scale := by
    gcongr
    exact_mod_cast hdigits
  have hlow := (bounds_of_mem_readings h).1
  have := unit_le hm e
  linarith

private theorem unit_lt_scale : (2 : ℚ) ^ e < 10 ^ scale := by
  have hten : (0 : ℚ) < 10 ^ scale := by positivity
  have := le_of_fifteen_digits hm hdigits h
  have := unit_le hm e
  linarith

private theorem pointOf_le_scale_add : pointOf m e ≤ scale + 17 := by
  have hlow := (pointOf_bounds (by omega : 0 < m) e).1
  have hten : (0 : ℚ) < 10 ^ scale := by positivity
  have hlt : (10 : ℚ) ^ (pointOf m e - 1) < 10 ^ (scale + 16) := by
    have hsplit : (10 : ℚ) ^ (scale + 16) = 10 ^ scale * 10 ^ 16 := zpow_add₀ (by norm_num) _ _
    have := le_of_fifteen_digits hm hdigits h
    rw [hsplit]
    linarith
  have := (zpow_lt_zpow_iff_right₀ (by norm_num)).mp hlt
  omega

/-- A decimal of at most fifteen digits that reads back as a number of full width is its shortest decimal. -/
theorem value_shortest : (shortest m e).value = digits * 10 ^ scale := by
  have hpos : 0 < m := by omega
  -- the decimal stands on the grid of `n` digits, and on that grid only it reads back
  let n : ℕ := max 1 (pointOf m e - scale).toNat
  have hn : pointOf m e - n ≤ scale := by omega
  have hwide : (2 : ℚ) ^ e < 10 ^ (pointOf m e - n) := by
    rcases le_total (pointOf m e - scale) 1 with hle | hge
    · rw [show pointOf m e - n = pointOf m e - 1 by omega]
      exact unit_lt_leading hm e
    · rw [show pointOf m e - n = scale by omega]
      exact unit_lt_scale hm hdigits h
  have hgrid : OnGrid (pointOf m e - n) ((digits : ℚ) * 10 ^ scale) := OnGrid.finer ⟨digits, rfl⟩ hn
  obtain ⟨d, hd⟩ := exists_withDigits? hpos hgrid h
  have hle := pointOf_le_scale_add hm hdigits h
  obtain ⟨k, hk, hshortest⟩ := shortest_cases (by omega) (by omega) hd
  obtain ⟨hscale, hmem⟩ := mem_readings_of_withDigits? hpos hshortest
  apply eq_of_mem_readings hmem h _ hgrid hwide
  exact OnGrid.finer ⟨_, rfl⟩ (by omega)

end FullWidth

end Binary64

end ClassOutline.Decimal
