import ClassOutline.Proofs.PositionalText
import ClassOutline.Report.Metric

/-!
# Measures are rounded once

The text of a measure is the numeral of its exact value rounded to the places of the measure, halves to even: the
divisions, the way back to double precision and the choice of the shortest digits add no error of their own.
-/
namespace ClassOutline.Report

open Decimal Binary64

/-- `v` is the multiple of `10 ^ -places` nearest to `x`, the even one if two are equally near. -/
def RoundsTo (places : ℕ) (x v : ℚ) : Prop :=
  ∃ k : ℤ, v = k / 10 ^ places ∧ IsNearestEven (x * 10 ^ places) k

theorem RoundsTo.mono {places : ℕ} {x x' v v' : ℚ} (h : RoundsTo places x v) (h' : RoundsTo places x' v')
    (hle : x ≤ x') : v ≤ v' := by
  obtain ⟨k, rfl, hk⟩ := h
  obtain ⟨k', rfl, hk'⟩ := h'
  have hkk : k ≤ k' := by
    apply hk.mono hk'
    gcongr
  gcongr

/-! ### One rounding -/

section Places

variable {places : ℕ} (hplaces : 0 < places) (hfew : places ≤ 4)

include hplaces hfew

/-- The number nearest to a decimal of at most fifteen digits is written as that decimal. -/
theorem exists_numeral_nearest (negative : Bool) {k : ℕ} (hk : k ≤ 10 ^ 15) :
    ∃ d : Numeral places, d.negative = negative ∧ d.magnitude = k / 10 ^ places ∧
      metricLayout.binary64 (nearest negative k (10 ^ places)) = d.text := by
  rcases Nat.eq_zero_or_pos k with rfl | hpos
  · refine ⟨⟨negative, ['0'], ['0'], by simp, by simp, by simp, by simp, by simp, by simp, hplaces⟩, rfl, ?_, rfl⟩
    simp [Numeral.magnitude, Nat.ofDigitChars_cons]
  have hscale : (k : ℚ) / (10 ^ places : ℕ) = k * 10 ^ (-(places : ℤ)) := by
    rw [zpow_neg, zpow_natCast, div_eq_mul_inv, Nat.cast_pow, Nat.cast_ofNat]
  have hlow : (1 : ℚ) / 10 ^ 4 ≤ k / (10 ^ places : ℕ) := by
    push_cast
    gcongr
    · exact_mod_cast hpos
    · norm_num
  have hhigh : (k : ℚ) / (10 ^ places : ℕ) ≤ 10 ^ 15 :=
    calc (k : ℚ) / (10 ^ places : ℕ) ≤ k := div_le_self (by positivity) (by exact_mod_cast Nat.one_le_pow' places 9)
      _ ≤ 10 ^ 15 := by exact_mod_cast hk
  have hleast : (2 : ℚ) ^ (-64 : ℤ) ≤ k / (10 ^ places : ℕ) := le_trans (by norm_num) hlow
  have hmost : (k : ℚ) / (10 ^ places : ℕ) ≤ 2 ^ (64 : ℤ) := hhigh.trans (by norm_num)
  obtain ⟨m, e, hnearest, hm, hmem⟩ := exists_nearest?_eq_some (by positivity) hleast hmost
  rw [hscale] at hmem hlow hhigh
  have hvalue := value_shortest hm hk hmem
  rw [← hvalue] at hlow hhigh
  have hdigits : 0 < (shortest m e).digits := by
    apply Nat.pos_of_ne_zero
    intro hzero
    rw [ShortDecimal.value, hzero, Nat.cast_zero, zero_mul] at hlow
    norm_num at hlow
  have hwhole : (shortest m e).value < 10 ^ metricLayout.wholeDigits := hhigh.trans_lt (by norm_num [metricLayout])
  obtain ⟨d, hsign, hmagnitude, htext⟩ :=
    exists_numeral_decimal metricLayout negative hdigits hplaces ⟨k, hvalue⟩ hfew hwhole
  refine ⟨d, hsign, ?_, ?_⟩
  · rw [hmagnitude, hvalue, ← hscale, Nat.cast_pow, Nat.cast_ofNat]
  · have hm_ne : m ≠ 0 := by omega
    rw [nearest, hnearest, Numeral.text, htext, hsign]
    dsimp only [Layout.binary64]
    rw [if_neg hm_ne]

/-- A number is written as the numeral of its exact value rounded once. -/
theorem exists_numeral_roundPlaces (negative : Bool) {m : ℕ} {e : ℤ} (h : (m : ℚ) * 2 ^ e * 10 ^ places ≤ 10 ^ 15) :
    ∃ d : Numeral places, d.negative = negative ∧ RoundsTo places (signed negative (m * 2 ^ e)) d.value ∧
      metricLayout.binary64 ((Binary64.finite negative m e).roundPlaces places) = d.text := by
  have hnear := isNearestEven_roundHalfEven (scaleNum m e * Nat.pow 10 places) (scaleDen_pos e)
  have hvalue : ((scaleNum m e * Nat.pow 10 places : ℕ) : ℚ) / scaleDen e = m * 2 ^ e * 10 ^ places := by
    rw [Nat.pow_eq, Nat.cast_mul, mul_div_right_comm, scaleNum_div_scaleDen, Nat.cast_pow, Nat.cast_ofNat]
  rw [hvalue] at hnear
  rw [Binary64.roundPlaces]
  generalize roundHalfEven (scaleNum m e * Nat.pow 10 places) (scaleDen e) = k at hnear ⊢
  have hk : k ≤ 10 ^ 15 := by
    have := hnear.mono (IsNearestEven.of_lt (x := 10 ^ 15) (k := 10 ^ 15) (by norm_num)) h
    exact_mod_cast this
  obtain ⟨d, hsign, hmagnitude, htext⟩ := exists_numeral_nearest hplaces hfew negative hk
  refine ⟨d, hsign, ?_, htext⟩
  rw [Numeral.value, hsign, hmagnitude]
  cases negative with
  | false => exact ⟨k, rfl, hnear⟩
  | true =>
    refine ⟨-k, ?_, ?_⟩
    · simp [signed, neg_div]
    · simpa [signed] using hnear.neg

end Places

/-! ### Bytes -/

section Bytes

variable {n : ℤ} (hn : n.natAbs < 2 ^ 53)

include hn

private theorem exists_kibibytes :
    ∃ m e, kibibytes n = .ok (.finite (n < 0) m e) ∧ (m : ℚ) * 2 ^ e = n.natAbs / 1024 := by
  have hexact : (n.natAbs : ℚ) / (1024 : ℕ) = n.natAbs * 2 ^ (-10 : ℤ) := by
    norm_num
    ring
  obtain ⟨m, e, hnearest, hvalue⟩ := exists_nearest?_of_eq (by norm_num) hn (by decide) (by decide) hexact
  refine ⟨m, e, ?_, ?_⟩
  · rw [kibibytes, hnearest]
  · rw [hvalue, Nat.cast_ofNat]

private theorem exists_mebibytes (negative : Bool) {m : ℕ} {e : ℤ} (h : (m : ℚ) * 2 ^ e = n.natAbs / 1024) :
    ∃ m' e', perKibi (.finite negative m e) = .finite negative m' e' ∧ (m' : ℚ) * 2 ^ e' = n.natAbs / 2 ^ 20 := by
  have hquotient : (scaleNum m e : ℚ) / (scaleDen e * 1024 : ℕ) = n.natAbs / 2 ^ 20 := by
    rw [Nat.cast_mul, ← div_div, scaleNum_div_scaleDen, h]
    norm_num
    ring
  have hexact : (scaleNum m e : ℚ) / (scaleDen e * 1024 : ℕ) = n.natAbs * 2 ^ (-20 : ℤ) := by
    rw [hquotient]
    norm_num
    ring
  have hden : 0 < scaleDen e * 1024 := Nat.mul_pos (scaleDen_pos e) (by norm_num)
  obtain ⟨m', e', hnearest, hvalue⟩ := exists_nearest?_of_eq hden hn (by decide) (by decide) hexact
  refine ⟨m', e', ?_, ?_⟩
  · rw [perKibi, nearest, hnearest]
  · rw [hvalue, hquotient]

end Bytes

private theorem signed_natAbs (n : ℤ) (y : ℚ) : signed (n < 0) (n.natAbs / y) = n / y := by
  rw [Nat.cast_natAbs, signed]
  by_cases hneg : n < 0
  · rw [if_pos (by simpa using hneg), abs_of_neg hneg]
    push_cast
    ring
  · rw [if_neg (by simpa using hneg), abs_of_nonneg (by omega)]

/-- Bytes are shown as the numeral of the exact number of megabytes, rounded once to hundredths. -/
theorem megabytes_rounded_once (n : ℤ) (hn : |n| < 2 ^ 53) :
    ∃ d : Numeral 2, (d.negative = true ↔ n < 0) ∧ RoundsTo 2 ((n : ℚ) / 2 ^ 20) d.value ∧
      megabytes n = .ok (String.ofList (d.text ++ ['M', 'B'])) := by
  have hn' : n.natAbs < 2 ^ 53 := by
    rw [Int.abs_eq_natAbs] at hn
    exact_mod_cast hn
  obtain ⟨m, e, hfirst, hm⟩ := exists_kibibytes hn'
  obtain ⟨m', e', hsecond, hm'⟩ := exists_mebibytes hn' (n < 0) hm
  have hrange : (m' : ℚ) * 2 ^ e' * 10 ^ 2 ≤ 10 ^ 15 := by
    have : (n.natAbs : ℚ) < 2 ^ 53 := by exact_mod_cast hn'
    rw [hm']
    linarith
  obtain ⟨d, hsign, hrounds, htext⟩ := exists_numeral_roundPlaces (by norm_num) (by norm_num) (n < 0) hrange
  rw [hm', signed_natAbs] at hrounds
  refine ⟨d, ?_, hrounds, ?_⟩
  · rw [hsign, decide_eq_true_iff]
  · rw [← htext, ← hsecond, megabytes, hfirst]
    rfl

-- Five eighths of a megabyte lie halfway between two hundredths; a single byte is less than half a hundredth.
theorem negative_half_shown :
    |(-655360 : ℤ)| < 2 ^ 53 ∧
    (∃ d : Numeral 2, (d.negative = true ↔ (-655360 : ℤ) < 0) ∧
      RoundsTo 2 (((-655360 : ℤ) : ℚ) / 2 ^ 20) d.value ∧
      megabytes (-655360) = .ok (String.ofList (d.text ++ ['M', 'B']))) ∧
    megabytes (-655360) = .ok "-0.62MB" :=
  ⟨by norm_num, megabytes_rounded_once (-655360) (by norm_num), rfl⟩

example : megabytes (-1) = .ok "-0.0MB" := rfl

/-! ### Seconds -/

/-- The number that 64 bits stand for: a sign, eleven bits of an exponent and 52 bits of a fraction. There is none
if all bits of the exponent are set. -/
def ofFields? (bits : BitVec 64) : Option ℚ :=
  let exponent := (bits.extractLsb' 52 11).toNat
  let fraction : ℚ := (bits.extractLsb' 0 52).toNat / 2 ^ 52
  if exponent = 2047 then none
  else if exponent = 0 then some (signed bits.msb (fraction * 2 ^ (-1022 : ℤ)))
  else some (signed bits.msb ((1 + fraction) * 2 ^ ((exponent : ℤ) - 1023)))

private theorem div_mul_zpow_add (a : ℚ) (e : ℤ) : a / 2 ^ 52 * 2 ^ (e + 52) = a * 2 ^ e := by
  have hpow : (2 : ℚ) ^ (e + 52) = 2 ^ e * 2 ^ 52 := zpow_add₀ two_ne_zero e 52
  rw [hpow]
  field_simp

private theorem exists_ofBits {bits : BitVec 64} {x : ℚ} (h : ofFields? bits = some x) :
    ∃ m e, ofBits bits.toNat = .finite bits.msb m e ∧ x = signed bits.msb (m * 2 ^ e) := by
  have hsign : (bits.toNat / Nat.pow 2 63 % 2 == 1) = bits.msb := by
    have hlt := bits.isLt
    rw [BitVec.msb_eq_decide, Nat.pow_eq, Bool.eq_iff_iff, beq_iff_eq, decide_eq_true_iff]
    omega
  simp only [ofFields?, BitVec.extractLsb'_toNat, Nat.shiftRight_eq_div_pow, Nat.pow_zero, Nat.div_one] at h
  unfold ofBits
  simp only [hsign, Nat.pow_eq]
  generalize bits.toNat / 2 ^ 52 % 2 ^ 11 = exponent at h ⊢
  generalize bits.toNat % 2 ^ 52 = fraction at h ⊢
  by_cases hlast : exponent = 2047
  · simp [hlast] at h
  rw [if_neg hlast] at h ⊢
  by_cases hleast : exponent = 0
  · rw [if_pos hleast, Option.some.injEq] at h
    rw [if_pos hleast]
    refine ⟨fraction, minExponent, rfl, ?_⟩
    have hvalue : (fraction : ℚ) / 2 ^ 52 * 2 ^ (-1022 : ℤ) = fraction * 2 ^ minExponent :=
      div_mul_zpow_add fraction minExponent
    rw [← h, hvalue]
  · rw [if_neg hleast, Option.some.injEq] at h
    rw [if_neg hleast]
    refine ⟨2 ^ 52 + fraction, exponent - 1075, rfl, ?_⟩
    have hvalue : (1 + (fraction : ℚ) / 2 ^ 52) * 2 ^ ((exponent : ℤ) - 1023) =
        (2 ^ 52 + fraction : ℕ) * 2 ^ ((exponent : ℤ) - 1075) := by
      rw [← div_mul_zpow_add _ ((exponent : ℤ) - 1075), show (exponent : ℤ) - 1075 + 52 = exponent - 1023 by ring]
      push_cast
      ring
    rw [← h, hvalue]

private theorem abs_signed (negative : Bool) {y : ℚ} (hy : 0 ≤ y) : |signed negative y| = y := by
  cases negative <;> simp [signed, abs_of_nonneg hy]

private theorem exists_numeral_seconds {bits : BitVec 64} {x : ℚ} (hx : ofFields? bits = some x) (hlt : |x| < 10 ^ 12) :
    ∃ d : Numeral 3, d.negative = bits.msb ∧ RoundsTo 3 x d.value ∧
      seconds (ofBits bits.toNat) = String.ofList (d.text ++ ['s']) := by
  obtain ⟨m, e, hbits, rfl⟩ := exists_ofBits hx
  have hrange : (m : ℚ) * 2 ^ e * 10 ^ 3 ≤ 10 ^ 15 := by
    rw [abs_signed _ (by positivity)] at hlt
    linarith
  obtain ⟨d, hsign, hrounds, htext⟩ := exists_numeral_roundPlaces (by norm_num) (by norm_num) bits.msb hrange
  refine ⟨d, hsign, hrounds, ?_⟩
  rw [seconds, hbits, htext]

private theorem denoted_seconds {x : Binary64} {d : Numeral 3} (h : seconds x = String.ofList (d.text ++ ['s'])) :
    denoted (seconds x).toList = d.value := by
  rw [h, String.toList_ofList]
  apply d.denoted_text_append
  intro c hc
  obtain rfl : 's' = c := by simpa using hc
  decide

/-- Seconds are shown as the numeral of the exact number, rounded once to thousandths. So the number shown never
decreases when the number of seconds grows. -/
theorem seconds_rounded_once (bits bits' : BitVec 64) (x x' : ℚ) (hx : ofFields? bits = some x)
    (hx' : ofFields? bits' = some x') (hlt : |x| < 10 ^ 12) (hlt' : |x'| < 10 ^ 12) :
    (∃ d : Numeral 3, d.negative = bits.msb ∧ RoundsTo 3 x d.value ∧
      seconds (ofBits bits.toNat) = String.ofList (d.text ++ ['s'])) ∧
    (x ≤ x' → denoted (seconds (ofBits bits.toNat)).toList ≤ denoted (seconds (ofBits bits'.toNat)).toList) := by
  obtain ⟨d, hsign, hrounds, htext⟩ := exists_numeral_seconds hx hlt
  obtain ⟨d', -, hrounds', htext'⟩ := exists_numeral_seconds hx' hlt'
  refine ⟨⟨d, hsign, hrounds, htext⟩, ?_⟩
  intro hle
  rw [denoted_seconds htext, denoted_seconds htext']
  exact hrounds.mono hrounds' hle

/-- One sixteenth, which lies halfway between two thousandths, and the next number in double precision. -/
def sixteenth : BitVec 64 := 0x3FB0000000000000#64

def pastSixteenth : BitVec 64 := 0x3FB0000000000001#64

theorem sixteenth_shown :
    ofFields? sixteenth = some (1 / 16) ∧ ofFields? pastSixteenth = some (1 / 16 + 1 / 2 ^ 56) ∧
    |(1 / 16 : ℚ)| < 10 ^ 12 ∧ |(1 / 16 + 1 / 2 ^ 56 : ℚ)| < 10 ^ 12 ∧
    (∃ d : Numeral 3, d.negative = sixteenth.msb ∧ RoundsTo 3 (1 / 16) d.value ∧
      seconds (ofBits sixteenth.toNat) = String.ofList (d.text ++ ['s'])) ∧
    denoted (seconds (ofBits sixteenth.toNat)).toList ≤ denoted (seconds (ofBits pastSixteenth.toNat)).toList := by
  have hx : ofFields? sixteenth = some (1 / 16) := by decide +kernel
  have hx' : ofFields? pastSixteenth = some (1 / 16 + 1 / 2 ^ 56) := by decide +kernel
  have hlt : |(1 / 16 : ℚ)| < 10 ^ 12 := by norm_num [abs_of_pos]
  have hlt' : |(1 / 16 + 1 / 2 ^ 56 : ℚ)| < 10 ^ 12 := by norm_num [abs_of_pos]
  obtain ⟨htext, hmono⟩ := seconds_rounded_once sixteenth pastSixteenth _ _ hx hx' hlt hlt'
  exact ⟨hx, hx', hlt, hlt', htext, hmono (by norm_num)⟩

example : seconds (ofBits sixteenth.toNat) = "0.062s" ∧ seconds (ofBits pastSixteenth.toNat) = "0.063s" := by
  decide +kernel

end ClassOutline.Report
