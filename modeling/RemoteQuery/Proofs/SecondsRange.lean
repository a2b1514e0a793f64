import RemoteQuery.Connection.Address
import RemoteQuery.Proofs.ScientificNumerals
import RemoteQuery.Proofs.SecondsBounds

/-!
# Which numbers of seconds are durations

A number of seconds is rounded to a floating-point number before it is looked at. So a number is
taken for a duration if it is rounded to one from zero to below `2 ^ 64`, the midpoints belonging to
zero and to `2 ^ 64`. From there on to the numbers that are rounded to infinity it is no duration
and not refused either.
-/
namespace RemoteQuery

open Number Number.FloatLayout

namespace Address

/-- The numbers of seconds that are rounded to a duration. -/
def Holdable (seconds : ℚ) : Prop := -2 ^ (-1075 : Int) ≤ seconds ∧ seconds < 2 ^ 64 - 2 ^ 10

/-- The numbers of seconds that are rounded to a finite number and to no duration. -/
def TooLong (seconds : ℚ) : Prop := 2 ^ 64 - 2 ^ 10 ≤ seconds ∧ seconds < 2 ^ 1024 - 2 ^ 970

/-- The refusal of a text that is no duration. -/
def noDuration (parameter value : String) : Fault :=
  .refused (.invalidParameter parameter ("Invalid duration in seconds: " ++ value))

theorem Holdable.not_tooLong {seconds : ℚ} (h : Holdable seconds) : ¬ TooLong seconds :=
  fun long => lt_irrefl _ (h.2.trans_le long.1)

/-- A floating-point number is within half a unit of the seconds, and the duration within half a
nanosecond of that. -/
inductive Rounds (seconds : ℚ) (duration : Duration) : Prop
  | intro {steps significand : Nat} (splits : binary64.Splits steps significand)
      (number : |seconds - significand * 2 ^ (binary64.leastExponent + steps)| ≤
        2 ^ (binary64.leastExponent + steps) / 2)
      (nanosecond : |(duration.nanoseconds : ℚ) -
        significand * 2 ^ (binary64.leastExponent + steps) * 1000000000| ≤ 1 / 2) :
      Rounds seconds duration

/-- What becomes of a text that is read for a number of seconds. -/
inductive ReadsAs (parameter value : String) : Except Fault Duration → Prop
  | held {seconds : ℚ} {duration : Duration} (named : Denotes value.toList seconds)
      (held : Holdable seconds) (rounded : Rounds seconds duration) :
      ReadsAs parameter value (.ok duration)
  | long {seconds : ℚ} (named : Denotes value.toList seconds) (long : TooLong seconds) :
      ReadsAs parameter value (.error (.durationOverflow parameter))
  | refused
      (none : ∀ seconds, Denotes value.toList seconds → ¬ Holdable seconds ∧ ¬ TooLong seconds) :
      ReadsAs parameter value (.error (noDuration parameter value))

section Bits

variable {parameter value : String} {pattern : Nat}
  (read : FloatValue.read? binary64 value.toList = some (.bits pattern))
include read

theorem readSeconds_of_none (absent : FloatValue.nonnegative? binary64 (.bits pattern) = none) :
    readSeconds parameter value = .error (noDuration parameter value) := by
  rw [readSeconds, read, Option.bind_some, absent]
  rfl

theorem readSeconds_of_some {mantissa : Nat} {exponent : Int}
    (present : FloatValue.nonnegative? binary64 (.bits pattern) = some (mantissa, exponent)) :
    readSeconds parameter value =
      if (Duration.ofBinarySeconds mantissa exponent).fits then
        .ok (Duration.ofBinarySeconds mantissa exponent)
      else .error (.durationOverflow parameter) := by
  rw [readSeconds, read, Option.bind_some, present]

end Bits

/-- What is refused under one number that a text names is refused, since it names no other. -/
theorem ReadsAs.of_unheld {parameter value : String} {seconds : ℚ}
    (named : Denotes value.toList seconds) (unheld : ¬ Holdable seconds)
    (bounded : ¬ TooLong seconds) : ReadsAs parameter value (.error (noDuration parameter value)) :=
  .refused fun _ another => another.unique named ▸ ⟨unheld, bounded⟩

section Signs

variable {parameter value : String} {digits : Nat} {exponent : Int}

theorem readsAs_negative
    (read : FloatValue.read? binary64 value.toList =
      some (.bits (binary64.signBit + binary64.magnitude digits exponent)))
    (named : Denotes value.toList (-(digits * 10 ^ exponent))) :
    ReadsAs parameter value (readSeconds parameter value) := by
  have tiny := magnitude_eq_zero_iff digits exponent
  have nonneg : (0 : ℚ) ≤ digits * 10 ^ exponent := by positivity
  have limit : (0 : ℚ) < 2 ^ 64 - 2 ^ 10 := by norm_num
  have bits := Duration.nonnegative?_negative (binary64.magnitude digits exponent)
  generalize (digits * 10 ^ exponent : ℚ) = number at named tiny nonneg
  by_cases zero : binary64.magnitude digits exponent = 0
  · have fits : (Duration.ofBinarySeconds 0 0).fits = true :=
      Duration.fits_of_exponent_le (by decide) (by decide)
    rw [if_pos zero] at bits
    rw [readSeconds_of_some read bits, if_pos fits]
    refine .held named ⟨neg_le_neg (tiny.mp zero), by linarith⟩ (.intro splits_zero ?_ ?_)
    · rw [Nat.cast_zero, zero_mul, sub_zero, abs_neg, abs_of_nonneg nonneg, half_least]
      exact tiny.mp zero
    · have near := Duration.nanoseconds_ofBinarySeconds_near 0 0
      rw [Nat.cast_zero, zero_mul, zero_mul] at near ⊢
      exact near
  · rw [if_neg zero] at bits
    rw [readSeconds_of_none read bits]
    refine .of_unheld named (fun held => zero (tiny.mpr (neg_le_neg_iff.mp held.1))) fun long => ?_
    linarith [long.1]

theorem readsAs_nonnegative
    (read : FloatValue.read? binary64 value.toList =
      some (.bits (binary64.magnitude digits exponent)))
    (named : Denotes value.toList (digits * 10 ^ exponent)) :
    ReadsAs parameter value (readSeconds parameter value) := by
  have bound := magnitude_lt_secondsBound_iff digits exponent
  have finite := magnitude_lt_infinity_iff digits exponent
  have least : (0 : ℚ) < 2 ^ (-1075 : Int) := zpow_pos two_pos _
  have nonneg : (0 : ℚ) ≤ digits * 10 ^ exponent := by positivity
  rcases Nat.lt_or_eq_of_le (magnitude_le_infinity binary64 digits exponent) with less | infinite
  · obtain ⟨steps, significand, splits, pattern, bits⟩ := exists_splits less
    have near := magnitude_near narrow_binary64 splits pattern
    have fits : _ ↔ steps * Nat.pow 2 binary64.fractionBits + significand < _ :=
      Duration.fits_iff_of_splits splits
    rw [← pattern] at fits
    rw [readSeconds_of_some read bits]
    split
    · rename_i held
      exact .held named ⟨by linarith, bound.mp (fits.mp held)⟩
        (.intro splits near (Duration.nanoseconds_ofBinarySeconds_near _ _))
    · rename_i unheld
      have above : ¬ (digits * 10 ^ exponent : ℚ) < 2 ^ 64 - 2 ^ 10 := fun small =>
        unheld (fits.mpr (bound.mpr small))
      exact .long named ⟨not_lt.mp above, finite.mp less⟩
  · rw [infinite] at read bound finite
    rw [readSeconds_of_none read Duration.nonnegative?_infinity]
    refine .of_unheld named (fun held => ?_) fun long => ?_
    · exact absurd (bound.mpr held.2) (by decide)
    · exact lt_irrefl _ (finite.mpr long.2)

end Signs

theorem readsAs_of_denotes {value : String} {seconds : ℚ} (named : Denotes value.toList seconds)
    (parameter : String) : ReadsAs parameter value (readSeconds parameter value) := by
  obtain ⟨negative, digits, exponent, scientific, rfl⟩ := read?_of_denotes named
  have read : FloatValue.read? binary64 value.toList =
      some (.ofScientific binary64 (.finite negative digits exponent)) := by
    rw [FloatValue.read?, scientific, Option.map_some]
  rw [FloatValue.ofScientific] at read
  cases negative with
  | true => exact readsAs_negative read named
  | false =>
    rw [if_neg Bool.false_ne_true, Nat.zero_add] at read
    exact readsAs_nonnegative read named

/-- A text that names no number is refused, and so are the words for infinity. -/
theorem readSeconds_of_not_denotes {value : String}
    (unnamed : ∀ seconds, ¬ Denotes value.toList seconds) (parameter : String) :
    readSeconds parameter value = .error (noDuration parameter value) := by
  cases scientific : Scientific.read? value.toList with
  | none =>
    rw [readSeconds, FloatValue.read?, scientific]
    rfl
  | some number =>
    have read : FloatValue.read? binary64 value.toList = some (.ofScientific binary64 number) := by
      rw [FloatValue.read?, scientific, Option.map_some]
    cases number with
    | finite negative digits exponent => exact (unnamed _ (denotes_of_read? scientific)).elim
    | infinite negative =>
      cases negative with
      | true => exact readSeconds_of_none read (by decide)
      | false => exact readSeconds_of_none read (by decide)
    | notANumber =>
      rw [readSeconds, read]
      rfl

theorem readSeconds_readsAs (parameter value : String) :
    ReadsAs parameter value (readSeconds parameter value) := by
  by_cases named : ∃ seconds, Denotes value.toList seconds
  · obtain ⟨seconds, named⟩ := named
    exact readsAs_of_denotes named parameter
  · have unnamed := not_exists.mp named
    rw [readSeconds_of_not_denotes unnamed]
    exact .refused fun seconds here => (unnamed seconds here).elim

theorem readSeconds_eq_overflow_iff {parameter value : String} :
    readSeconds parameter value = .error (.durationOverflow parameter) ↔
      ∃ seconds, Denotes value.toList seconds ∧ TooLong seconds := by
  have reads := readSeconds_readsAs parameter value
  constructor
  · intro read
    rw [read] at reads
    cases reads with
    | long named long => exact ⟨_, named, long⟩
  · rintro ⟨seconds, named, long⟩
    generalize readSeconds parameter value = answer at reads
    cases reads with
    | held another held => exact ((named.unique another ▸ held).not_tooLong long).elim
    | long => rfl
    | refused none => exact ((none seconds named).2 long).elim

end Address

end RemoteQuery
