import RemoteQuery.Proofs.RoundingBounds

/-!
# Rounding of decimals

Digits and a power of ten are rounded as their quotient is, although powers that are far out of
range are not worked out. So a decimal is rounded to bits up to a bound just when it lies before the
midpoint behind it, and is never further than half a unit of the last bit from what it is rounded
to.
-/
namespace RemoteQuery.Number.FloatLayout

variable {layout : FloatLayout} {steps significand : Nat} {number : ℚ}

theorem two_pow_le_ten_pow (power : Nat) : (2 : ℚ) ^ (3 * power) ≤ 10 ^ power := by
  rw [pow_mul]
  exact pow_le_pow_left₀ (by norm_num) (by norm_num) power

/-- The layouts for which numbers of four hundred decimal places are out of range. -/
structure Narrow (layout : FloatLayout) : Prop where
  exponentBits : layout.exponentBits ≤ 11
  fractionBits : layout.fractionBits ≤ 52

theorem Narrow.power_le (h : layout.Narrow) : Nat.pow 2 (layout.exponentBits - 1) ≤ 1024 := by
  have bits : layout.exponentBits - 1 ≤ 10 := Nat.sub_le_of_le_add h.exponentBits
  exact Nat.pow_le_pow_right two_pos bits

theorem Narrow.least (h : layout.Narrow) : -1199 ≤ layout.leastExponent := by
  have power := h.power_le
  have fraction := h.fractionBits
  rw [leastExponent]
  omega

theorem Narrow.most (h : layout.Narrow) (splits : layout.Splits steps significand) :
    layout.leastExponent + (steps + 1 : Nat) + layout.fractionBits ≤ 1200 := by
  have power := h.power_le
  rw [leastExponent]
  rcases splits.full with rfl | full
  · omega
  · have finite := splits.finite
    have double : Nat.pow 2 layout.exponentBits ≤ 2 * Nat.pow 2 (layout.exponentBits - 1) := by
      rw [Nat.mul_comm]
      exact Nat.pow_le_pow_right two_pos (by omega : _ ≤ layout.exponentBits - 1 + 1)
    have last : steps + 1 < Nat.pow 2 layout.exponentBits - 1 := by
      refine Nat.lt_of_mul_lt_mul_right (a := Nat.pow 2 layout.fractionBits) ?_
      rw [Nat.succ_mul]
      exact (Nat.add_le_add_left full _).trans_lt finite
    omega

/-- The logarithm of the digits tells that a number is out of range. -/
theorem lt_of_log2_le {digits : Nat} {exponent : Int}
    (small : exponent + (digits.log2 / 3 + 1 : Nat) ≤ -400) :
    (digits * 10 ^ exponent : ℚ) < 2 ^ (-1200 : Int) := by
  have bound : (digits : ℚ) < 10 ^ (digits.log2 / 3 + 1) := calc
    (digits : ℚ) < 2 ^ (digits.log2 + 1) := by exact_mod_cast Nat.lt_log2_self
    _ ≤ 2 ^ (3 * (digits.log2 / 3 + 1)) := pow_le_pow_right₀ one_le_two (by omega)
    _ ≤ 10 ^ (digits.log2 / 3 + 1) := two_pow_le_ten_pow _
  calc
    (digits * 10 ^ exponent : ℚ) < 10 ^ (digits.log2 / 3 + 1) * 10 ^ exponent :=
      mul_lt_mul_of_pos_right bound (by positivity)
    _ = 10 ^ (exponent + (digits.log2 / 3 + 1 : Nat)) := by
      rw [zpow_add₀ (by norm_num), zpow_natCast, mul_comm]
    _ ≤ 10 ^ (-400 : Int) := zpow_le_zpow_right₀ (by norm_num) small
    _ ≤ 2 ^ (-1200 : Int) := inv_anti₀ (by positivity) (two_pow_le_ten_pow 400)

section Decimals

variable (narrow : layout.Narrow) {digits : Nat} {exponent : Int}
include narrow

theorem Narrow.not_within_of_large (h : layout.Splits steps significand) (nonzero : digits ≠ 0)
    (large : 400 ≤ exponent) : ¬ layout.Within steps significand (digits * 10 ^ exponent) := by
  have one : (1 : ℚ) ≤ digits := Nat.one_le_cast.mpr (Nat.pos_of_ne_zero nonzero)
  apply h.not_within_of_le (Nat.lt_succ_self steps)
  calc
    (2 : ℚ) ^ (layout.leastExponent + (steps + 1 : Nat) + layout.fractionBits)
        ≤ 2 ^ (1200 : Int) := zpow_le_zpow_right₀ one_le_two (narrow.most h)
    _ ≤ 10 ^ (400 : Int) := two_pow_le_ten_pow 400
    _ ≤ 10 ^ exponent := zpow_le_zpow_right₀ (by norm_num) large
    _ ≤ digits * 10 ^ exponent := le_mul_of_one_le_left (by positivity) one

theorem Narrow.within_of_small (small : exponent + (digits.log2 / 3 + 1 : Nat) ≤ -400) :
    layout.Within steps significand (digits * 10 ^ exponent) := by
  have least := narrow.least
  refine .inl ?_
  rw [div_lt_iff₀ (by positivity)]
  calc
    (digits * 10 ^ exponent : ℚ) < 2 ^ (-1200 : Int) := lt_of_log2_le small
    _ ≤ 2 ^ (layout.leastExponent + steps - 1) := zpow_le_zpow_right₀ one_le_two (by omega)
    _ = 1 / 2 * 2 ^ (layout.leastExponent + steps) := by
      rw [zpow_sub_one₀ two_ne_zero, mul_comm, one_div]
    _ ≤ (significand + 1 / 2) * 2 ^ (layout.leastExponent + steps) :=
      mul_le_mul_of_nonneg_right (le_add_of_nonneg_left (Nat.cast_nonneg _)) (by positivity)

/-- The decimal numbers that are rounded to bits up to a bound. -/
theorem magnitude_le_iff (h : layout.Splits steps significand) (digits : Nat) (exponent : Int) :
    layout.magnitude digits exponent ≤ steps * Nat.pow 2 layout.fractionBits + significand ↔
      layout.Within steps significand (digits * 10 ^ exponent) := by
  have ten (power : Nat) : 0 < Nat.pow 10 power := Nat.pow_pos (by decide)
  have cast_ten (power : Nat) : ((Nat.pow 10 power : Nat) : ℚ) = 10 ^ power := by
    exact_mod_cast rfl
  rw [magnitude]
  split
  · rename_i zero
    rw [zero, Nat.cast_zero, zero_mul]
    exact iff_of_true (Nat.zero_le _) (within_of_le (by positivity))
  rename_i nonzero
  split
  · rename_i large
    exact iff_of_false (Nat.not_le.mpr h.finite) (narrow.not_within_of_large h nonzero large)
  split
  · rename_i small
    exact iff_of_true (Nat.zero_le _) (narrow.within_of_small small)
  split
  · rename_i natural
    obtain ⟨power, rfl⟩ := Int.eq_ofNat_of_zero_le natural
    rw [Int.toNat_natCast, roundBits_le_iff Nat.one_pos h (Nat.mul_ne_zero nonzero (ten power).ne'),
      Nat.cast_mul, cast_ten, Nat.cast_one, div_one, zpow_natCast]
  · obtain ⟨power, rfl⟩ := Int.exists_eq_neg_ofNat (by omega : exponent ≤ 0)
    rw [Int.neg_neg, Int.toNat_natCast, roundBits_le_iff (ten power) h nonzero, cast_ten, zpow_neg,
      zpow_natCast, div_eq_mul_inv]

end Decimals

theorem magnitude_le_infinity (layout : FloatLayout) (digits : Nat) (exponent : Int) :
    layout.magnitude digits exponent ≤ layout.infinity := by
  rw [magnitude]
  split
  · exact Nat.zero_le _
  split
  · exact Nat.le_refl _
  split
  · exact Nat.zero_le _
  split
  · exact Nat.min_le_right _ _
  · exact Nat.min_le_right _ _

theorem roundQuotient_near {numerator denominator : Nat} (positive : 0 < denominator) :
    |(roundQuotient numerator denominator : ℚ) - numerator / denominator| ≤ 1 / 2 := by
  have itself : roundQuotient numerator denominator ≤ roundQuotient numerator denominator :=
    Nat.le_refl _
  have most := ((roundQuotient_le_iff positive).mp itself).le
  have nonneg : (0 : ℚ) ≤ numerator / denominator := by positivity
  have least : (roundQuotient numerator denominator - 1 / 2 : ℚ) ≤ numerator / denominator := by
    cases rounded : roundQuotient numerator denominator with
    | zero =>
      rw [Nat.cast_zero]
      linarith
    | succ before =>
      have above : ¬ roundQuotient numerator denominator ≤ before := by omega
      have middle := le_of_not_roundsWithin fun h => above ((roundQuotient_le_iff positive).mpr h)
      rw [Nat.cast_succ]
      linarith
  rw [abs_sub_le_iff]
  constructor <;> linarith

theorem infinity_lt_signBit (layout : FloatLayout) : layout.infinity < layout.signBit := by
  have bits : layout.signBit = Nat.pow 2 layout.exponentBits * Nat.pow 2 layout.fractionBits := by
    rw [signBit, Nat.mul_comm]
    exact Nat.pow_add 2 _ _
  have some : 0 < Nat.pow 2 layout.exponentBits := Nat.pow_pos two_pos
  rw [infinity, bits]
  exact Nat.mul_lt_mul_of_pos_right (Nat.sub_lt some one_pos) (Nat.pow_pos two_pos)

/-- The bits of a finite number and the number that they stand for. -/
theorem exists_splits {pattern : Nat} (finite : pattern < layout.infinity) :
    ∃ steps significand, layout.Splits steps significand ∧
      pattern = steps * Nat.pow 2 layout.fractionBits + significand ∧
      FloatValue.nonnegative? layout (.bits pattern) =
        some (significand, layout.leastExponent + steps) := by
  have some : 0 < Nat.pow 2 layout.fractionBits := Nat.pow_pos two_pos
  have fraction := Nat.mod_lt pattern some
  have whole := Nat.div_add_mod pattern (Nat.pow 2 layout.fractionBits)
  rw [Nat.mul_comm] at whole
  rw [FloatValue.nonnegative?, if_neg (finite.trans layout.infinity_lt_signBit).ne,
    if_neg (Nat.not_le.mpr finite)]
  generalize pattern % Nat.pow 2 layout.fractionBits = rest at fraction whole ⊢
  generalize pattern / Nat.pow 2 layout.fractionBits = field at whole ⊢
  rw [← whole] at finite ⊢
  cases field with
  | zero =>
    refine ⟨0, rest, ⟨by omega, .inl rfl, finite⟩, rfl, ?_⟩
    rw [Nat.cast_zero, add_zero]
    rfl
  | succ steps =>
    rw [Nat.succ_mul, Nat.add_assoc] at finite ⊢
    exact ⟨steps, _, ⟨by omega, .inr (Nat.le_add_right _ _), finite⟩, rfl, rfl⟩

/-- What is not within any bits before is at most half a unit below the bits. -/
theorem Splits.half_le (h : layout.Splits steps significand) (nonneg : 0 ≤ number)
    (above : ∀ {before row : Nat}, layout.Splits before row →
      before * Nat.pow 2 layout.fractionBits + row <
        steps * Nat.pow 2 layout.fractionBits + significand →
      ¬ layout.Within before row number) :
    (significand - 1 / 2) * 2 ^ (layout.leastExponent + steps) ≤ number := by
  have ⟨fits, full, finite⟩ := h
  have unit : (0 : ℚ) < 2 ^ (layout.leastExponent + steps) := zpow_pos two_pos _
  cases significand with
  | zero =>
    rw [Nat.cast_zero, zero_sub, neg_mul]
    linarith
  | succ row =>
    by_cases kept : steps = 0 ∨ Nat.pow 2 layout.fractionBits ≤ row
    · have least := le_of_not_within (above ⟨by omega, kept, by omega⟩ (Nat.lt_succ_self _))
      rw [Nat.cast_succ]
      linarith
    · -- The bits before a power of two are full ones of the exponent below it.
      obtain ⟨before, rfl⟩ := Nat.exists_eq_succ_of_ne_zero (by omega : steps ≠ 0)
      have first : row + 1 = Nat.pow 2 layout.fractionBits := by omega
      rw [first, Nat.succ_mul] at finite above
      have last : layout.Splits before (2 * Nat.pow 2 layout.fractionBits - 1) :=
        ⟨by omega, .inr (by omega), by omega⟩
      have least := le_of_not_within (above last (by omega))
      have unit : (0 : ℚ) < 2 ^ (layout.leastExponent + before) := zpow_pos two_pos _
      rw [Nat.cast_sub (by omega), Nat.cast_mul, Nat.cast_ofNat, Nat.cast_one] at least
      rw [first, Nat.cast_succ, ← add_assoc, zpow_add_one₀ two_ne_zero]
      linarith

theorem magnitude_near (narrow : layout.Narrow) (h : layout.Splits steps significand)
    {digits : Nat} {exponent : Int}
    (bits : layout.magnitude digits exponent =
      steps * Nat.pow 2 layout.fractionBits + significand) :
    |(digits * 10 ^ exponent : ℚ) - significand * 2 ^ (layout.leastExponent + steps)| ≤
      2 ^ (layout.leastExponent + steps) / 2 := by
  have most := ((magnitude_le_iff narrow h digits exponent).mp bits.le).le
  have nonneg : (0 : ℚ) ≤ digits * 10 ^ exponent := by positivity
  have least := h.half_le nonneg fun splits less within =>
    Nat.not_le_of_lt less (bits ▸ (magnitude_le_iff narrow splits digits exponent).mpr within)
  rw [abs_sub_le_iff]
  constructor <;> linarith

end RemoteQuery.Number.FloatLayout
