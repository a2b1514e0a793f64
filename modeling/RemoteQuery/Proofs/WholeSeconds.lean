import RemoteQuery.Connection.Address
import RemoteQuery.Proofs.PrintedNumerals

/-!
# Whole numbers of seconds

A whole number up to `2 ^ 53` is a floating-point number itself, so nothing is rounded on the way
from its decimal digits to a duration.
-/
namespace RemoteQuery

namespace Number

theorem significand?_digits {digits : List Char} (nonempty : digits ≠ [])
    (all : ∀ c ∈ digits, isDigit c = true) :
    significand? digits = some (digitsValue digits, 0) := by
  have uncut : Text.cut? (· == '.') digits = none :=
    Text.cut?_eq_none_iff.mpr fun c member =>
      beq_eq_false_iff_ne.mpr (not_isDigit (all c member) (by decide))
  have every : digits.all isDigit = true := List.all_eq_true.mpr all
  have some : digits.isEmpty = false := List.isEmpty_eq_false_iff.mpr nonempty
  simp only [significand?, uncut, Option.getD_none, every, some, List.all_nil, Bool.and_self,
    Bool.false_and, Bool.not_false, if_pos, List.append_nil, List.length_nil]
  rfl

theorem toLower_digit {c : Char} (h : isDigit c = true) : c.toLower = c := by
  have bound : c.toNat < 128 := by
    obtain ⟨_, most⟩ := isDigit_iff.mp h
    omega
  have table : ∀ n : Fin 128, isDigit (Char.ofNat n) = true →
      (Char.ofNat n).toLower = Char.ofNat n := by decide
  obtain ⟨n, rfl⟩ := Text.exists_ascii bound
  exact table n h

theorem isWord_of_first {c : Char} (lower : c.toLower = c) {word : String}
    (other : word.toList.head? ≠ some c) (rest : List Char) : isWord word (c :: rest) = false := by
  refine beq_eq_false_iff_ne.mpr fun same => other ?_
  rw [← same, List.map_cons, lower, List.head?_cons]

theorem isWord_digits {digits : List Char} {word : String} (nonempty : digits ≠ [])
    (all : ∀ c ∈ digits, isDigit c = true) (letter : word.toList.head?.any isDigit = false) :
    isWord word digits = false := by
  obtain ⟨c, rest, rfl⟩ := List.exists_cons_of_ne_nil nonempty
  have digit := all c List.mem_cons_self
  refine isWord_of_first (toLower_digit digit) (fun same => ?_) rest
  rw [same, Option.any_some, digit] at letter
  cases letter

theorem read?_digits {digits : List Char} (nonempty : digits ≠ [])
    (all : ∀ c ∈ digits, isDigit c = true) :
    Scientific.read? digits = some (.finite false (digitsValue digits) 0) := by
  have word (text : String) (letter : text.toList.head?.any isDigit = false) :
      isWord text digits = false := isWord_digits nonempty all letter
  have uncut : Text.cut? (fun c => c == 'e' || c == 'E') digits = none := by
    refine Text.cut?_eq_none_iff.mpr fun c member => ?_
    have digit := all c member
    rw [Bool.or_eq_false_iff, beq_eq_false_iff_ne, beq_eq_false_iff_ne]
    exact ⟨not_isDigit digit (by decide), not_isDigit digit (by decide)⟩
  rw [Scientific.read?, splitSign_digits all]
  simp only [unsignedScientific?, word "inf" (by decide), word "infinity" (by decide),
    word "nan" (by decide), uncut, significand?_digits nonempty all, Bool.or_self,
    Bool.false_eq_true, if_false, Option.map_some]

namespace FloatLayout

theorem roundQuotient_mul (numerator : Nat) {denominator : Nat} (h : 0 < denominator) :
    roundQuotient (numerator * denominator) denominator = numerator := by
  rw [roundQuotient, Nat.mul_div_cancel _ h, Nat.mul_mod_left]
  exact if_pos (by omega)

theorem shifted_natCast (numerator denominator power : Nat) :
    shifted numerator denominator power = (numerator, denominator * Nat.pow 2 power) := by
  rw [shifted, if_pos (Int.natCast_nonneg power), Int.toNat_natCast]

theorem shifted_neg_natCast (numerator denominator power : Nat) :
    shifted numerator denominator (-(power : Int)) =
      (numerator * Nat.pow 2 power, denominator) := by
  cases power with
  | zero =>
    change (numerator, denominator * 1) = (numerator * 1, denominator)
    rw [Nat.mul_one, Nat.mul_one]
  | succ power => rw [shifted, if_neg (by omega), Int.neg_neg, Int.toNat_natCast]

theorem leastExponent_binary64 : binary64.leastExponent = -1074 := by decide

/-- A whole number of at most fifty-three bits, moved up until it has as many. -/
structure Aligned (number shift mantissa : Nat) : Prop where
  room : shift ≤ 52
  moved : mantissa = number * Nat.pow 2 shift
  least : Nat.pow 2 52 ≤ mantissa
  most : mantissa < Nat.pow 2 53
  bits : number.log2 + shift = 52

theorem exists_aligned {number : Nat} (positive : 1 ≤ number) (bound : number < Nat.pow 2 53) :
    ∃ shift mantissa, Aligned number shift mantissa := by
  have nonzero : number ≠ 0 := by omega
  have small : number.log2 < 53 := (Nat.log2_lt nonzero).mpr bound
  have whole : number.log2 + (52 - number.log2) = 52 := by omega
  have fills (bits : Nat) :
      2 ^ (bits + number.log2) * 2 ^ (52 - number.log2) = 2 ^ (bits + 52) := by
    rw [← Nat.pow_add, Nat.add_assoc, whole]
  have positive : 0 < 2 ^ (52 - number.log2) := Nat.pow_pos (by decide)
  refine ⟨52 - number.log2, _, by omega, rfl, ?_, ?_, whole⟩
  · have least := Nat.mul_le_mul_right (2 ^ (52 - number.log2)) (Nat.log2_self_le nonzero)
    have power := fills 0
    simp only [Nat.zero_add] at power
    rwa [power] at least
  · have most := Nat.mul_lt_mul_of_pos_right (Nat.lt_log2_self (n := number)) positive
    rwa [Nat.add_comm, fills 1] at most

theorem Aligned.lastExponent {number shift mantissa : Nat} (h : Aligned number shift mantissa) :
    binary64.lastExponent number 1 = -(shift : Int) := by
  have room := h.room
  have bits := h.bits
  have guess : (number.log2 : Int) - (1 : Nat).log2 - binary64.fractionBits = -(shift : Int) := by
    change (number.log2 : Int) - (0 : Nat) - (52 : Nat) = _
    omega
  rw [FloatLayout.lastExponent, guess, shifted_neg_natCast, ← h.moved, leastExponent_binary64]
  have full : ¬ mantissa < 1 * Nat.pow 2 binary64.fractionBits := Nat.not_lt.mpr h.least
  simp only [if_neg full]
  omega

theorem Aligned.roundBits {number shift mantissa : Nat} (h : Aligned number shift mantissa) :
    binary64.roundBits number 1 = (1074 - shift) * Nat.pow 2 52 + mantissa := by
  have room := h.room
  have most : mantissa < 2 ^ 53 := h.most
  have steps : (-(shift : Int) - -1074).toNat = 1074 - shift := by omega
  have exact : roundQuotient mantissa 1 = mantissa := by
    have whole := roundQuotient_mul mantissa Nat.one_pos
    rwa [Nat.mul_one] at whole
  have finite : (1074 - shift) * 2 ^ 52 + mantissa ≤ 2047 * 2 ^ 52 := by omega
  rw [FloatLayout.roundBits, h.lastExponent, shifted_neg_natCast, ← h.moved,
    leastExponent_binary64, steps]
  simp only [exact]
  exact Nat.min_eq_left finite

theorem Aligned.nonnegative? {number shift mantissa : Nat} (h : Aligned number shift mantissa) :
    FloatValue.nonnegative? binary64 (.bits ((1074 - shift) * Nat.pow 2 52 + mantissa)) =
      some (mantissa, -(shift : Int)) := by
  have room := h.room
  have least : 2 ^ 52 ≤ mantissa := h.least
  have most : mantissa < 2 ^ 53 := h.most
  have place : Nat.pow 2 binary64.fractionBits = 2 ^ 52 := rfl
  have sign : binary64.signBit = 2 ^ 63 := rfl
  have infinity : binary64.infinity = 2047 * 2 ^ 52 := rfl
  change FloatValue.nonnegative? binary64 (.bits ((1074 - shift) * 2 ^ 52 + mantissa)) = _
  simp only [FloatValue.nonnegative?, place, sign, infinity, leastExponent_binary64]
  rw [if_neg (by omega), if_neg (by omega), if_neg (by omega)]
  simp only [Option.some.injEq, Prod.mk.injEq]
  omega

theorem Aligned.magnitude {number shift mantissa : Nat} (h : Aligned number shift mantissa) :
    binary64.magnitude number 0 = (1074 - shift) * Nat.pow 2 52 + mantissa := by
  have nonzero : number ≠ 0 := by
    have least : 2 ^ 52 ≤ mantissa := h.least
    rintro rfl
    rw [h.moved, Nat.zero_mul] at least
    omega
  rw [FloatLayout.magnitude, if_neg nonzero, if_neg (by omega), if_neg (by omega),
    if_pos (Int.le_refl 0)]
  change binary64.roundBits (number * 1) 1 = _
  rw [Nat.mul_one, h.roundBits]

theorem Aligned.ofBinarySeconds {number shift mantissa : Nat} (h : Aligned number shift mantissa) :
    Duration.ofBinarySeconds mantissa (-(shift : Int)) = .ofSeconds number := by
  have moved : mantissa * 1000000000 = number * 1000000000 * Nat.pow 2 shift := by
    rw [h.moved, Nat.mul_right_comm]
  have power : 0 < Nat.pow 2 shift := Nat.pow_pos (by decide)
  rw [Duration.ofBinarySeconds, Int.neg_neg, shifted_natCast, moved, Nat.one_mul]
  simp only [roundQuotient_mul _ power]
  rfl

end FloatLayout

/-- Whole numbers up to `2 ^ 53` are read as the duration of so many seconds. -/
theorem exists_binarySeconds {number : Nat} (positive : 1 ≤ number)
    (bound : number ≤ Nat.pow 2 53) :
    ∃ mantissa exponent,
      (FloatValue.ofScientific .binary64 (.finite false number 0)).nonnegative? .binary64 =
        some (mantissa, exponent) ∧
      Duration.ofBinarySeconds mantissa exponent = .ofSeconds number := by
  rcases Nat.lt_or_eq_of_le bound with less | rfl
  · obtain ⟨shift, mantissa, aligned⟩ := FloatLayout.exists_aligned positive less
    refine ⟨mantissa, _, ?_, aligned.ofBinarySeconds⟩
    rw [FloatValue.ofScientific, aligned.magnitude]
    simp only [Bool.false_eq_true, if_false, Nat.zero_add, aligned.nonnegative?]
  · exact ⟨Nat.pow 2 52, 1, by decide, by decide⟩

end Number

/-- The duration is a whole, positive number of seconds up to `2 ^ 53`. -/
def Duration.IsWhole (d : Duration) : Prop :=
  ∃ seconds, 1 ≤ seconds ∧ seconds ≤ Nat.pow 2 53 ∧ d = .ofSeconds seconds

theorem Duration.wholeSeconds_ofSeconds (seconds : Nat) :
    (Duration.ofSeconds seconds).wholeSeconds = seconds :=
  Nat.mul_div_cancel _ (by decide)

theorem Address.readSeconds_of_isWhole {d : Duration} (h : d.IsWhole) (parameter : String) :
    readSeconds parameter (toString d.wholeSeconds) = .ok d := by
  obtain ⟨seconds, positive, bound, rfl⟩ := h
  rw [Duration.wholeSeconds_ofSeconds]
  obtain ⟨nonempty, digits, value⟩ := Number.digits_repr seconds
  obtain ⟨mantissa, exponent, number, duration⟩ := Number.exists_binarySeconds positive bound
  have fits : (Duration.ofSeconds seconds).fits = true := by
    rw [Duration.fits, Duration.wholeSeconds_ofSeconds, decide_eq_true_iff]
    exact Nat.lt_of_le_of_lt bound (by decide)
  rw [readSeconds, Number.FloatValue.read?, Number.read?_digits nonempty digits, value]
  simp only [Option.map_some, Option.bind_some, number, duration, fits, if_true]

end RemoteQuery
