import RemoteQuery.Proofs.DecimalRounding
import RemoteQuery.Proofs.WholeSeconds

/-!
# Bounds of seconds

Seconds are rounded to a floating-point number before they are a duration. Which numbers come out as
a duration, as an infinity or as zero is told by the midpoints at the bounds.
-/
namespace RemoteQuery

open Number Number.FloatLayout

namespace Number.FloatLayout

theorem narrow_binary64 : binary64.Narrow := ⟨Nat.le_refl _, Nat.le_refl _⟩

theorem splits_zero : binary64.Splits 0 0 := ⟨by decide, .inl rfl, by decide⟩

/-- Full significands have a last bit of one, so the midpoint above them is rounded up. -/
theorem magnitude_lt_iff {steps : Nat} (finite : (steps + 2) * Nat.pow 2 52 ≤ binary64.infinity)
    (digits : Nat) (exponent : Int) :
    binary64.magnitude digits exponent < (steps + 2) * Nat.pow 2 52 ↔
      (digits * 10 ^ exponent : ℚ) < (2 ^ 53 - 1 / 2) * 2 ^ ((steps : Int) - 1074) := by
  have splits : binary64.Splits steps (Nat.pow 2 53 - 1) := by
    refine ⟨by decide, .inr (by decide), ?_⟩
    change steps * 2 ^ 52 + (2 ^ 53 - 1) < _
    change (steps + 2) * 2 ^ 52 ≤ _ at finite
    omega
  have bound : (steps + 2) * Nat.pow 2 52 = steps * Nat.pow 2 52 + (Nat.pow 2 53 - 1) + 1 := by
    change (steps + 2) * 2 ^ 52 = steps * 2 ^ 52 + (2 ^ 53 - 1) + 1
    omega
  have last : ((Nat.pow 2 53 - 1 : Nat) : ℚ) + 1 / 2 = 2 ^ 53 - 1 / 2 := by
    rw [Nat.cast_sub (by decide), cast_pow_two]
    norm_num
  rw [bound, Nat.lt_succ_iff]
  change _ ≤ steps * Nat.pow 2 binary64.fractionBits + _ ↔ _
  rw [magnitude_le_iff narrow_binary64 splits, within_iff_lt (by decide), last,
    leastExponent_binary64, neg_add_eq_sub]

/-- What is rounded to less than `2 ^ 64`. -/
theorem magnitude_lt_secondsBound_iff (digits : Nat) (exponent : Int) :
    binary64.magnitude digits exponent < 1087 * Nat.pow 2 52 ↔
      (digits * 10 ^ exponent : ℚ) < 2 ^ 64 - 2 ^ 10 := by
  have middle : (2 ^ 53 - 1 / 2 : ℚ) * 2 ^ (((1085 : Nat) : Int) - 1074) = 2 ^ 64 - 2 ^ 10 := by
    norm_num
  rw [← middle]
  exact magnitude_lt_iff (by decide) digits exponent

/-- What is rounded to a finite number. -/
theorem magnitude_lt_infinity_iff (digits : Nat) (exponent : Int) :
    binary64.magnitude digits exponent < binary64.infinity ↔
      (digits * 10 ^ exponent : ℚ) < 2 ^ 1024 - 2 ^ 970 := by
  have middle : (2 ^ 53 - 1 / 2 : ℚ) * 2 ^ (((2045 : Nat) : Int) - 1074) = 2 ^ 1024 - 2 ^ 970 := by
    have power : ((2045 : Nat) : Int) - 1074 = (971 : Nat) := by norm_num
    have half : (2 : ℚ) ^ 970 = 1 / 2 * 2 ^ 971 := by
      rw [pow_succ' 2 970, ← mul_assoc, one_div_mul_cancel two_ne_zero, one_mul]
    rw [power, zpow_natCast, sub_mul, half, ← pow_add]
  rw [← middle]
  exact magnitude_lt_iff (by decide) digits exponent

theorem half_least :
    (2 : ℚ) ^ (binary64.leastExponent + ((0 : Nat) : Int)) / 2 = 2 ^ (-1075 : Int) := by
  have power : (-1075 : Int) = -1074 + ((0 : Nat) : Int) - 1 := by norm_num
  rw [leastExponent_binary64, power, zpow_sub_one₀ two_ne_zero, div_eq_mul_inv]

/-- What is rounded to zero. -/
theorem magnitude_eq_zero_iff (digits : Nat) (exponent : Int) :
    binary64.magnitude digits exponent = 0 ↔
      (digits * 10 ^ exponent : ℚ) ≤ 2 ^ (-1075 : Int) := by
  have bound := magnitude_le_iff narrow_binary64 splits_zero digits exponent
  rw [within_iff_le rfl, Nat.cast_zero, zero_add, one_div_mul_eq_div, half_least, Nat.zero_mul,
    Nat.le_zero] at bound
  exact bound

end Number.FloatLayout

namespace Duration

theorem shifted_seconds (mantissa : Nat) (exponent : Int) :
    (((mantissa * 1000000000 : Nat) : ℚ) / (1 : Nat) / 2 ^ (-exponent)) =
      mantissa * 2 ^ exponent * 1000000000 := by
  rw [Nat.cast_one, div_one, zpow_neg, div_inv_eq_mul, Nat.cast_mul, mul_right_comm, Nat.cast_ofNat]

theorem nanoseconds_ofBinarySeconds_le_iff {mantissa bound : Nat} {exponent : Int} :
    (ofBinarySeconds mantissa exponent).nanoseconds ≤ bound ↔
      RoundsWithin (mantissa * 2 ^ exponent * 1000000000) bound := by
  rw [ofBinarySeconds, ← shifted_seconds, ← shifted_quotient,
    ← roundQuotient_le_iff (shifted_pos _ one_pos _)]

theorem fits_iff {d : Duration} :
    d.fits = true ↔ d.nanoseconds ≤ Nat.pow 2 64 * 1000000000 - 1 := by
  rw [fits, wholeSeconds, secondsBound, decide_eq_true_iff, Nat.div_lt_iff_lt_mul (by decide)]
  exact Nat.lt_iff_le_pred (by decide)

theorem cast_lastNanosecond :
    ((Nat.pow 2 64 * 1000000000 - 1 : Nat) : ℚ) = 2 ^ 64 * 1000000000 - 1 := by
  rw [Nat.cast_sub (by decide), Nat.cast_mul, cast_pow_two, Nat.cast_ofNat, Nat.cast_one]

theorem fits_ofBinarySeconds {mantissa : Nat} {exponent : Int}
    (below : (mantissa * 2 ^ exponent : ℚ) ≤ 2 ^ 64 - 1) :
    (ofBinarySeconds mantissa exponent).fits = true := by
  rw [fits_iff, nanoseconds_ofBinarySeconds_le_iff]
  refine .inl ?_
  rw [cast_lastNanosecond]
  linarith

theorem not_fits_ofBinarySeconds {mantissa : Nat} {exponent : Int}
    (above : (2 ^ 64 : ℚ) ≤ mantissa * 2 ^ exponent) :
    (ofBinarySeconds mantissa exponent).fits = false := by
  rw [Bool.eq_false_iff, ne_eq, fits_iff, nanoseconds_ofBinarySeconds_le_iff, RoundsWithin,
    cast_lastNanosecond]
  rintro (less | ⟨middle, _⟩) <;> linarith

/-- Significands of fifty-three bits are held up to the exponent eleven, and full ones not beyond
it. -/
theorem fits_of_exponent_le {mantissa : Nat} {exponent : Int} (bits : mantissa < Nat.pow 2 53)
    (low : exponent ≤ 11) : (ofBinarySeconds mantissa exponent).fits = true := by
  apply fits_ofBinarySeconds
  have most : (mantissa : ℚ) ≤ 2 ^ 53 - 1 := by
    have whole : ((mantissa + 1 : Nat) : ℚ) ≤ (Nat.pow 2 53 : Nat) := Nat.cast_le.mpr bits
    rw [cast_pow_two, Nat.cast_succ] at whole
    linarith
  calc
    (mantissa * 2 ^ exponent : ℚ) ≤ (2 ^ 53 - 1) * 2 ^ (11 : Int) :=
      mul_le_mul most (zpow_le_zpow_right₀ one_le_two low) (by positivity) (by norm_num)
    _ ≤ 2 ^ 64 - 1 := by norm_num

theorem not_fits_of_lt_exponent {mantissa : Nat} {exponent : Int} (full : Nat.pow 2 52 ≤ mantissa)
    (high : 11 < exponent) : (ofBinarySeconds mantissa exponent).fits = false := by
  apply not_fits_ofBinarySeconds
  have least : (2 ^ 52 : ℚ) ≤ mantissa := by
    have whole : ((Nat.pow 2 52 : Nat) : ℚ) ≤ mantissa := Nat.cast_le.mpr full
    rwa [cast_pow_two] at whole
  calc
    (2 ^ 64 : ℚ) = 2 ^ 52 * 2 ^ (12 : Int) := by norm_num
    _ ≤ mantissa * 2 ^ exponent :=
      mul_le_mul least (zpow_le_zpow_right₀ one_le_two high) (by positivity) (Nat.cast_nonneg _)

theorem nanoseconds_ofBinarySeconds_near (mantissa : Nat) (exponent : Int) :
    |((ofBinarySeconds mantissa exponent).nanoseconds : ℚ) - mantissa * 2 ^ exponent * 1000000000|
      ≤ 1 / 2 := by
  rw [ofBinarySeconds, ← shifted_seconds, ← shifted_quotient]
  exact roundQuotient_near (shifted_pos _ one_pos _)

/-- The bits of a finite number tell whether so many seconds can be held. -/
theorem fits_iff_of_splits {steps significand : Nat} (h : binary64.Splits steps significand) :
    (ofBinarySeconds significand (binary64.leastExponent + steps)).fits = true ↔
      steps * Nat.pow 2 52 + significand < 1087 * Nat.pow 2 52 := by
  have fits : significand < 2 * 2 ^ 52 := h.fits
  have full : steps = 0 ∨ 2 ^ 52 ≤ significand := h.full
  change _ ↔ steps * 2 ^ 52 + significand < 1087 * 2 ^ 52
  rw [leastExponent_binary64]
  rcases Nat.lt_or_ge steps 1086 with low | high
  · exact iff_of_true (fits_of_exponent_le fits (by omega)) (by omega)
  · have full : 2 ^ 52 ≤ significand := full.resolve_left (by omega)
    have long := not_fits_of_lt_exponent full (by omega : 11 < -1074 + (steps : Int))
    exact iff_of_false (Bool.eq_false_iff.mp long) (by omega)

theorem nonnegative?_infinity :
    FloatValue.nonnegative? binary64 (.bits binary64.infinity) = none := by
  decide

/-- Behind a minus sign only zero is not below zero. -/
theorem nonnegative?_negative (pattern : Nat) :
    FloatValue.nonnegative? binary64 (.bits (binary64.signBit + pattern)) =
      if pattern = 0 then some (0, 0) else none := by
  have sign : binary64.signBit = 2 ^ 63 := rfl
  have infinity : binary64.infinity = 2047 * 2 ^ 52 := rfl
  simp only [FloatValue.nonnegative?, sign, infinity]
  split
  · rw [if_pos (by omega)]
  · rw [if_pos (by omega), if_neg (by omega)]

end Duration

end RemoteQuery
