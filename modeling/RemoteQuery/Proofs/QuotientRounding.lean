import Mathlib.Algebra.Order.Field.Power
import Mathlib.Data.Int.Log
import Mathlib.Data.Rat.Cast.Order
import Mathlib.Data.Rat.Floor
import Mathlib.Tactic.FieldSimp
import Mathlib.Tactic.Linarith
import Mathlib.Tactic.NormNum
import Mathlib.Tactic.Positivity
import RemoteQuery.Number.BinaryFloat

/-!
# Rounding of quotients

A quotient is rounded to the nearest whole number, half a unit going to the even one, after it has
been scaled by a power of two; the power is told by the logarithm of the quotient.
-/
namespace RemoteQuery.Number.FloatLayout

/-- The numbers of which the nearest whole number is not above the bound, a midpoint going to the
even one. -/
def RoundsWithin (number : ℚ) (bound : Nat) : Prop :=
  number < bound + 1 / 2 ∨ number = bound + 1 / 2 ∧ bound % 2 = 0

theorem RoundsWithin.le {number : ℚ} {bound : Nat} (h : RoundsWithin number bound) :
    number ≤ bound + 1 / 2 := by
  rcases h with below | ⟨middle, _⟩
  · exact below.le
  · exact middle.le

theorem le_of_not_roundsWithin {number : ℚ} {bound : Nat} (h : ¬ RoundsWithin number bound) :
    bound + 1 / 2 ≤ number :=
  not_lt.mp fun below => h (.inl below)

theorem roundsWithin_div_iff {numerator denominator bound : Nat} (positive : 0 < denominator) :
    RoundsWithin (numerator / denominator) bound ↔
      2 * numerator < (2 * bound + 1) * denominator ∨
        2 * numerator = (2 * bound + 1) * denominator ∧ bound % 2 = 0 := by
  have above : (0 : ℚ) < denominator := Nat.cast_pos.mpr positive
  have middle : (bound + 1 / 2 : ℚ) = ((2 * bound + 1) * denominator / 2 : ℚ) / denominator := by
    field_simp
  have less : (numerator : ℚ) / denominator < bound + 1 / 2 ↔
      2 * numerator < (2 * bound + 1) * denominator := by
    rw [middle, div_lt_div_iff_of_pos_right above, lt_div_iff₀ two_pos, mul_comm]
    exact_mod_cast Iff.rfl
  have same : (numerator : ℚ) / denominator = bound + 1 / 2 ↔
      2 * numerator = (2 * bound + 1) * denominator := by
    rw [middle, div_left_inj' above.ne', eq_div_iff two_ne_zero, mul_comm]
    exact_mod_cast Iff.rfl
  rw [RoundsWithin, less, same]

theorem roundQuotient_le_iff {numerator denominator bound : Nat} (positive : 0 < denominator) :
    roundQuotient numerator denominator ≤ bound ↔
      RoundsWithin (numerator / denominator) bound := by
  rw [roundsWithin_div_iff positive, roundQuotient]
  have whole := Nat.div_add_mod numerator denominator
  have rest := Nat.mod_lt numerator positive
  generalize numerator / denominator = quotient at whole ⊢
  generalize numerator % denominator = remainder at whole rest ⊢
  subst whole
  have twice : (2 * bound + 1) * denominator = 2 * (denominator * bound) + denominator := by
    rw [Nat.succ_mul, Nat.mul_assoc, Nat.mul_comm bound]
  rw [twice]
  have less (h : quotient < bound) : denominator * quotient + denominator ≤ denominator * bound :=
    Nat.mul_le_mul_left denominator h
  have same (h : quotient = bound) : denominator * quotient = denominator * bound :=
    congrArg _ h
  have more (h : bound < quotient) : denominator * bound + denominator ≤ denominator * quotient :=
    Nat.mul_le_mul_left denominator h
  split
  · omega
  · split <;> omega

theorem roundQuotient_le_of_le {numerator denominator bound : Nat} (positive : 0 < denominator)
    (h : (numerator : ℚ) / denominator ≤ bound) : roundQuotient numerator denominator ≤ bound :=
  (roundQuotient_le_iff positive).mpr (.inl (by linarith))

theorem le_roundQuotient_of_le {numerator denominator bound : Nat} (positive : 0 < denominator)
    (h : (bound : ℚ) ≤ numerator / denominator) : bound ≤ roundQuotient numerator denominator := by
  by_contra less
  obtain ⟨before, rfl⟩ := Nat.exists_eq_succ_of_ne_zero (by omega : bound ≠ 0)
  have within := (roundQuotient_le_iff positive).mp (Nat.le_of_lt_succ (Nat.lt_of_not_le less))
  rw [Nat.cast_succ] at h
  rcases within with below | ⟨middle, _⟩ <;> linarith

theorem cast_pow_two (power : Nat) : ((Nat.pow 2 power : Nat) : ℚ) = 2 ^ power := by
  exact_mod_cast rfl

theorem shifted_quotient (numerator denominator : Nat) (exponent : Int) :
    ((shifted numerator denominator exponent).1 : ℚ) / (shifted numerator denominator exponent).2 =
      numerator / denominator / 2 ^ exponent := by
  rw [shifted]
  split
  · rename_i natural
    obtain ⟨power, rfl⟩ := Int.eq_ofNat_of_zero_le natural
    rw [Int.toNat_natCast, Nat.cast_mul, cast_pow_two, zpow_natCast, div_div]
  · obtain ⟨power, rfl⟩ := Int.exists_eq_neg_ofNat (by omega : exponent ≤ 0)
    rw [Int.neg_neg, Int.toNat_natCast, Nat.cast_mul, cast_pow_two, zpow_neg, zpow_natCast,
      div_inv_eq_mul, div_mul_eq_mul_div]

theorem shifted_pos (numerator : Nat) {denominator : Nat} (positive : 0 < denominator)
    (exponent : Int) : 0 < (shifted numerator denominator exponent).2 := by
  rw [shifted]
  split
  · exact Nat.mul_pos positive (Nat.pow_pos two_pos)
  · exact positive

section Quotient

variable {numerator denominator : Nat} (nonzero : numerator ≠ 0) (positive : 0 < denominator)
include nonzero positive

theorem quotient_pos : (0 : ℚ) < numerator / denominator :=
  div_pos (Nat.cast_pos.mpr (Nat.pos_of_ne_zero nonzero)) (Nat.cast_pos.mpr positive)

theorem two_zpow_le_iff {exponent : Int} :
    (2 : ℚ) ^ exponent ≤ numerator / denominator ↔
      exponent ≤ Int.log 2 (numerator / denominator : ℚ) :=
  Int.zpow_le_iff_le_log one_lt_two (quotient_pos nonzero positive)

theorem lt_two_zpow_iff {exponent : Int} :
    (numerator / denominator : ℚ) < 2 ^ exponent ↔
      Int.log 2 (numerator / denominator : ℚ) < exponent :=
  Int.lt_zpow_iff_log_lt one_lt_two (quotient_pos nonzero positive)

/-- The logarithms of its parts tell a quotient to a factor of two. -/
theorem log_bounds :
    (numerator.log2 : Int) - denominator.log2 - 1 ≤ Int.log 2 (numerator / denominator : ℚ) ∧
      Int.log 2 (numerator / denominator : ℚ) ≤ (numerator.log2 : Int) - denominator.log2 := by
  have above : (0 : ℚ) < denominator := Nat.cast_pos.mpr positive
  have least : (2 : ℚ) ^ numerator.log2 ≤ numerator := by
    exact_mod_cast Nat.log2_self_le nonzero
  have most : (numerator : ℚ) < 2 ^ (numerator.log2 + 1) := by
    exact_mod_cast Nat.lt_log2_self
  have leastBelow : (2 : ℚ) ^ denominator.log2 ≤ denominator := by
    exact_mod_cast Nat.log2_self_le positive.ne'
  have mostBelow : (denominator : ℚ) < 2 ^ (denominator.log2 + 1) := by
    exact_mod_cast Nat.lt_log2_self
  constructor
  · rw [← two_zpow_le_iff nonzero positive, sub_sub, zpow_sub₀ two_ne_zero, ← Nat.cast_succ,
      zpow_natCast, zpow_natCast, div_le_div_iff₀ (by positivity) above]
    exact mul_le_mul least mostBelow.le above.le (Nat.cast_nonneg _)
  · rw [← Int.lt_add_one_iff, ← lt_two_zpow_iff nonzero positive, sub_add_eq_add_sub,
      zpow_sub₀ two_ne_zero, ← Nat.cast_succ, zpow_natCast, zpow_natCast,
      div_lt_div_iff₀ above (by positivity)]
    exact mul_lt_mul most leastBelow (by positivity) (by positivity)

/-- The last bit that is kept stands `fractionBits` below the first, if the least power does not
stand above it. -/
theorem lastExponent_eq (layout : FloatLayout) :
    layout.lastExponent numerator denominator =
      max (Int.log 2 (numerator / denominator : ℚ) - layout.fractionBits) layout.leastExponent := by
  rw [lastExponent]
  generalize guess_eq : (numerator.log2 : Int) - denominator.log2 - layout.fractionBits = guess
  have above : (0 : ℚ) < (shifted numerator denominator guess).2 :=
    Nat.cast_pos.mpr (shifted_pos numerator positive guess)
  have short : (shifted numerator denominator guess).1
        < (shifted numerator denominator guess).2 * Nat.pow 2 layout.fractionBits ↔
      Int.log 2 (numerator / denominator : ℚ) < guess + layout.fractionBits := by
    rw [← lt_two_zpow_iff nonzero positive, ← Nat.cast_lt (α := ℚ), Nat.cast_mul, cast_pow_two,
      mul_comm, ← div_lt_iff₀ above, shifted_quotient, div_lt_iff₀ (zpow_pos two_pos _), mul_comm,
      zpow_add₀ two_ne_zero, zpow_natCast]
  obtain ⟨least, most⟩ := log_bounds nonzero positive
  simp only [short]
  split <;> omega

end Quotient

end RemoteQuery.Number.FloatLayout
