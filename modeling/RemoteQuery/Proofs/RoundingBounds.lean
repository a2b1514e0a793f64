import RemoteQuery.Proofs.QuotientRounding

/-!
# Which numbers a floating-point number stands for

The bits of floating-point numbers that are not negative are ordered as the numbers are. A quotient
is rounded to bits up to a bound just when it lies before the midpoint between the number at the
bound and the next one, or on the midpoint if the last bit at the bound is zero.
-/
namespace RemoteQuery.Number.FloatLayout

/-- Bits by their exponent, counted from the least, and their significand. -/
structure Splits (layout : FloatLayout) (steps significand : Nat) : Prop where
  fits : significand < 2 * Nat.pow 2 layout.fractionBits
  full : steps = 0 ∨ Nat.pow 2 layout.fractionBits ≤ significand
  finite : steps * Nat.pow 2 layout.fractionBits + significand < layout.infinity

/-- The numbers that are not rounded to anything above the bits. -/
def Within (layout : FloatLayout) (steps significand : Nat) (number : ℚ) : Prop :=
  RoundsWithin (number / 2 ^ (layout.leastExponent + steps)) significand

variable {layout : FloatLayout} {steps significand : Nat} {number : ℚ}

theorem Within.le (h : layout.Within steps significand number) :
    number ≤ (significand + 1 / 2) * 2 ^ (layout.leastExponent + steps) := by
  rw [← div_le_iff₀ (zpow_pos two_pos _)]
  exact RoundsWithin.le h

/-- The midpoint above an odd significand is rounded away from it. -/
theorem within_iff_lt (odd : significand % 2 = 1) :
    layout.Within steps significand number ↔
      number < (significand + 1 / 2) * 2 ^ (layout.leastExponent + steps) := by
  rw [← div_lt_iff₀ (zpow_pos two_pos _)]
  exact or_iff_left fun middle => by omega

/-- The midpoint above an even significand is rounded to it. -/
theorem within_iff_le (even : significand % 2 = 0) :
    layout.Within steps significand number ↔
      number ≤ (significand + 1 / 2) * 2 ^ (layout.leastExponent + steps) := by
  refine ⟨Within.le, fun bounded => ?_⟩
  rw [← div_le_iff₀ (zpow_pos two_pos _)] at bounded
  exact bounded.lt_or_eq.imp_right fun middle => ⟨middle, even⟩

theorem within_of_le (h : number ≤ significand * 2 ^ (layout.leastExponent + steps)) :
    layout.Within steps significand number := by
  rw [← div_le_iff₀ (zpow_pos two_pos _)] at h
  exact .inl (by linarith)

theorem le_of_not_within (h : ¬ layout.Within steps significand number) :
    (significand + 1 / 2) * 2 ^ (layout.leastExponent + steps) ≤ number := by
  rw [← le_div_iff₀ (zpow_pos two_pos _)]
  exact le_of_not_roundsWithin h

/-- The power of two at the first bit of a full significand. -/
theorem two_zpow_add (layout : FloatLayout) (exponent : Int) :
    (2 : ℚ) ^ (exponent + layout.fractionBits) =
      (Nat.pow 2 layout.fractionBits : Nat) * 2 ^ exponent := by
  rw [zpow_add₀ two_ne_zero, zpow_natCast, cast_pow_two, mul_comm]

/-- Below the first bit that they can have at their exponent, numbers are within the bits. -/
theorem Splits.within_of_lt (h : layout.Splits steps significand) {more : Nat} (less : more < steps)
    (below : number < 2 ^ (layout.leastExponent + more + layout.fractionBits + 1)) :
    layout.Within steps significand number := by
  have full : Nat.pow 2 layout.fractionBits ≤ significand := h.full.resolve_left (by omega)
  apply within_of_le
  calc
    number ≤ 2 ^ (layout.leastExponent + more + layout.fractionBits + 1) := below.le
    _ ≤ 2 ^ (layout.leastExponent + steps + layout.fractionBits) :=
      zpow_le_zpow_right₀ one_le_two (by omega)
    _ = (Nat.pow 2 layout.fractionBits : Nat) * 2 ^ (layout.leastExponent + steps) :=
      two_zpow_add layout _
    _ ≤ significand * 2 ^ (layout.leastExponent + steps) :=
      mul_le_mul_of_nonneg_right (Nat.cast_le.mpr full) (zpow_nonneg zero_le_two _)

/-- From the first bit on that they can have at a higher exponent, numbers are not within the
bits. -/
theorem Splits.not_within_of_le (h : layout.Splits steps significand) {more : Nat}
    (greater : steps < more)
    (enough : 2 ^ (layout.leastExponent + more + layout.fractionBits) ≤ number) :
    ¬ layout.Within steps significand number := by
  intro within
  have room : (significand + 1 / 2 : ℚ) < 2 * (Nat.pow 2 layout.fractionBits : Nat) := by
    have fits : (significand + 1 : ℚ) ≤ 2 * (Nat.pow 2 layout.fractionBits : Nat) := by
      exact_mod_cast h.fits
    linarith
  have less : number < number := calc
    number ≤ (significand + 1 / 2) * 2 ^ (layout.leastExponent + steps) := within.le
    _ < 2 * (Nat.pow 2 layout.fractionBits : Nat) * 2 ^ (layout.leastExponent + steps) :=
      mul_lt_mul_of_pos_right room (zpow_pos two_pos _)
    _ = 2 ^ (layout.leastExponent + steps + layout.fractionBits + 1) := by
      rw [zpow_add_one₀ two_ne_zero, two_zpow_add]
      ring
    _ ≤ 2 ^ (layout.leastExponent + more + layout.fractionBits) :=
      zpow_le_zpow_right₀ one_le_two (by omega)
    _ ≤ number := enough
  exact lt_irrefl _ less

section Rounding

variable {numerator denominator : Nat} (positive : 0 < denominator) {exponent : Int}
include positive

/-- A significand is rounded up to the next power of two at most. -/
theorem roundQuotient_shifted_le
    (below : (numerator / denominator : ℚ) < 2 ^ (exponent + layout.fractionBits + 1)) :
    roundQuotient (shifted numerator denominator exponent).1
        (shifted numerator denominator exponent).2 ≤ 2 * Nat.pow 2 layout.fractionBits := by
  apply roundQuotient_le_of_le (shifted_pos numerator positive exponent)
  rw [shifted_quotient, div_le_iff₀ (zpow_pos two_pos _), Nat.cast_mul, Nat.cast_ofNat, mul_assoc,
    ← two_zpow_add, mul_comm, ← zpow_add_one₀ two_ne_zero]
  exact below.le

theorem le_roundQuotient_shifted
    (enough : 2 ^ (exponent + layout.fractionBits) ≤ (numerator / denominator : ℚ)) :
    Nat.pow 2 layout.fractionBits ≤
      roundQuotient (shifted numerator denominator exponent).1
        (shifted numerator denominator exponent).2 := by
  apply le_roundQuotient_of_le (shifted_pos numerator positive exponent)
  rw [shifted_quotient, le_div_iff₀ (zpow_pos two_pos _), ← two_zpow_add]
  exact enough

/-- The exponent that a number is rounded at is compared with that of the bound: only if they are
the same does the significand matter. -/
theorem roundBits_le_iff (h : layout.Splits steps significand) (nonzero : numerator ≠ 0) :
    layout.roundBits numerator denominator ≤ steps * Nat.pow 2 layout.fractionBits + significand ↔
      layout.Within steps significand (numerator / denominator) := by
  have last := lastExponent_eq nonzero positive layout
  rw [roundBits]
  generalize layout.lastExponent numerator denominator = exponent at last ⊢
  obtain ⟨more, rfl⟩ : ∃ more : Nat, exponent = layout.leastExponent + more :=
    ⟨(exponent - layout.leastExponent).toNat, by omega⟩
  have steps_eq : (layout.leastExponent + more - layout.leastExponent).toNat = more := by omega
  have below : (numerator / denominator : ℚ) <
      2 ^ (layout.leastExponent + more + layout.fractionBits + 1) :=
    (lt_two_zpow_iff nonzero positive).mpr (by omega)
  simp only [steps_eq]
  rcases Nat.lt_trichotomy more steps with less | rfl | greater
  · have most := roundQuotient_shifted_le positive below
    have full := h.full.resolve_left (by omega)
    have room := Nat.mul_le_mul_right (Nat.pow 2 layout.fractionBits) less
    rw [Nat.succ_mul] at room
    refine ⟨fun _ => h.within_of_lt less below, fun _ => (Nat.min_le_left _ _).trans ?_⟩
    omega
  · rw [min_le_iff, Nat.add_le_add_iff_left, roundQuotient_le_iff (shifted_pos _ positive _),
      shifted_quotient]
    exact or_iff_left (Nat.not_le.mpr h.finite)
  · have enough : 2 ^ (layout.leastExponent + more + layout.fractionBits) ≤
        (numerator / denominator : ℚ) :=
      (two_zpow_le_iff nonzero positive).mpr (by omega)
    have least := le_roundQuotient_shifted positive enough
    have fits := h.fits
    have room := Nat.mul_le_mul_right (Nat.pow 2 layout.fractionBits) greater
    rw [Nat.succ_mul] at room
    refine ⟨fun bounded => ?_, fun within => ?_⟩
    · exact absurd bounded (Nat.not_le.mpr (lt_min (by omega) h.finite))
    · exact (h.not_within_of_le greater enough within).elim

end Rounding

end RemoteQuery.Number.FloatLayout
