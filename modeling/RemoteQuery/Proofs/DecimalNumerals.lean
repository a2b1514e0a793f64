import Mathlib.Algebra.Order.Ring.Abs
import Mathlib.Data.Rat.Cast.Order
import Mathlib.Tactic.FieldSimp
import Mathlib.Tactic.NormNum
import Mathlib.Tactic.Positivity
import RemoteQuery.Proofs.ColumnReading
import RemoteQuery.Proofs.SignedNumerals

/-!
# Numerals of decimals

A numeral has digits before and after its point, and names the number that its digits stand for. Its
digits with the point moved by the scale stand for that number times a power of ten, and how large
the number is is told from how many digits it has.
-/
namespace RemoteQuery.Columnar

/-- The digits before and after the point of a numeral, of which there is at least one. -/
structure DecimalNumeral where
  negative : Bool
  whole : List Char
  fraction : List Char
  digits : ∀ c ∈ whole ++ fraction, Number.isDigit c = true
  nonempty : whole ++ fraction ≠ []

namespace DecimalNumeral

def magnitude (numeral : DecimalNumeral) : ℚ :=
  Number.digitsValue numeral.whole
    + Number.digitsValue numeral.fraction / 10 ^ numeral.fraction.length

/-- The number that a numeral denotes. -/
def value (numeral : DecimalNumeral) : ℚ :=
  if numeral.negative then -numeral.magnitude else numeral.magnitude

/-- A numeral with its sign is a way to write the numeral. The point may be left out if no digit
follows it. -/
inductive Spells (numeral : DecimalNumeral) : List Char → Prop
  | pointed {sign : List Char} (signed : sign ∈ Number.signs numeral.negative) :
      Spells numeral (sign ++ (numeral.whole ++ '.' :: numeral.fraction))
  | plain {sign : List Char} (signed : sign ∈ Number.signs numeral.negative)
      (integral : numeral.fraction = []) : Spells numeral (sign ++ numeral.whole)

/-- A decimal of so many digits, so many of them behind the point, can be the number. -/
structure Fits (numeral : DecimalNumeral) (precision scale : Nat) : Prop where
  places : numeral.fraction.length ≤ scale
  bound : |numeral.value| * 10 ^ scale < 10 ^ precision

end DecimalNumeral

/-- The integer that is stored for a text: the number that the text spells, with its point moved. -/
def Admits (precision scale : Nat) (text : List Char) (unscaled : Int) : Prop :=
  ∃ numeral : DecimalNumeral, numeral.Spells text ∧ numeral.Fits precision scale ∧
    (unscaled : ℚ) = numeral.value * 10 ^ scale

/-- Why a text is no decimal of the precision and scale. -/
inductive Refuses (precision scale : Nat) (text : List Char) : DecimalFault → Prop
  | form (unspelled : ∀ numeral : DecimalNumeral, ¬ numeral.Spells text) :
      Refuses precision scale text (.form (String.ofList text))
  | fractionalDigits {numeral : DecimalNumeral} (spelled : numeral.Spells text)
      (long : scale < numeral.fraction.length) :
      Refuses precision scale text (.fractionalDigits (String.ofList text) scale)
  | digits {numeral : DecimalNumeral} (spelled : numeral.Spells text)
      (places : numeral.fraction.length ≤ scale)
      (large : 10 ^ precision ≤ |numeral.value| * 10 ^ scale) :
      Refuses precision scale text (.digits (String.ofList text) precision)

namespace DecimalNumeral

theorem isDigit_whole (numeral : DecimalNumeral) {c : Char} (member : c ∈ numeral.whole) :
    Number.isDigit c = true :=
  numeral.digits c (List.mem_append_left _ member)

theorem isDigit_fraction (numeral : DecimalNumeral) {c : Char} (member : c ∈ numeral.fraction) :
    Number.isDigit c = true :=
  numeral.digits c (List.mem_append_right _ member)

theorem point_not_mem_whole (numeral : DecimalNumeral) :
    ∀ c ∈ numeral.whole, (c == '.') = false := by
  intro c member
  exact beq_false_of_ne (Number.not_isDigit (numeral.isDigit_whole member) (by decide))

/-- A sign is not taken for a part of what follows it. -/
theorem unsigned_of_digits {body : List Char}
    (h : ∀ c, body.head? = some c → Number.isDigit c = true ∨ c = '.') :
    ∀ c, body.head? = some c → c ≠ '-' ∧ c ≠ '+' := by
  intro c first
  rcases h c first with digit | rfl
  · exact ⟨Number.not_isDigit digit (by decide), Number.not_isDigit digit (by decide)⟩
  · decide

theorem Spells.parts {numeral : DecimalNumeral} {text : List Char} (h : numeral.Spells text) :
    ∃ body, Number.splitSign text = (numeral.negative, body) ∧
      (Text.cut? (· == '.') body).getD (body, []) = (numeral.whole, numeral.fraction) := by
  cases h with
  | pointed signed =>
    refine ⟨numeral.whole ++ '.' :: numeral.fraction, ?_, ?_⟩
    · apply Number.splitSign_sign signed
      apply unsigned_of_digits
      intro c first
      cases whole : numeral.whole with
      | nil =>
        rw [whole] at first
        cases first
        exact .inr rfl
      | cons d rest =>
        rw [whole] at first
        cases first
        exact .inl (numeral.isDigit_whole (whole ▸ List.mem_cons_self))
    · rw [Text.cut?_eq_some_iff.mpr ⟨numeral.point_not_mem_whole, '.', rfl, rfl⟩, Option.getD_some]
  | plain signed integral =>
    refine ⟨numeral.whole, ?_, ?_⟩
    · apply Number.splitSign_sign signed
      apply unsigned_of_digits
      intro c first
      exact .inl (numeral.isDigit_whole (List.mem_of_head? first))
    · rw [Text.cut?_eq_none_iff.mpr numeral.point_not_mem_whole, Option.getD_none, integral]

theorem spells_of_parts {numeral : DecimalNumeral} {text body : List Char}
    (sign : Number.splitSign text = (numeral.negative, body))
    (parts : (Text.cut? (· == '.') body).getD (body, []) = (numeral.whole, numeral.fraction)) :
    numeral.Spells text := by
  obtain ⟨sign, signed, rfl⟩ := Number.exists_sign sign
  cases cut : Text.cut? (· == '.') body with
  | none =>
    rw [cut, Option.getD_none, Prod.mk.injEq] at parts
    rw [parts.1]
    exact .plain signed parts.2.symm
  | some pair =>
    rw [cut, Option.getD_some] at parts
    obtain ⟨_, point, isPoint, rfl⟩ := Text.cut?_eq_some_iff.mp (cut.trans (congrArg some parts))
    rw [beq_iff_eq.mp isPoint]
    exact .pointed signed

/-- A text spells one numeral. -/
theorem Spells.unique {numeral other : DecimalNumeral} {text : List Char}
    (h : numeral.Spells text) (another : other.Spells text) : numeral = other := by
  obtain ⟨body, sign, parts⟩ := h.parts
  obtain ⟨_, same, cut⟩ := another.parts
  obtain ⟨negative, rfl⟩ := Prod.mk.inj (sign.symm.trans same)
  obtain ⟨whole, fraction⟩ := Prod.mk.inj (parts.symm.trans cut)
  cases numeral
  cases other
  simp only at negative whole fraction
  subst negative whole fraction
  rfl

variable {numeral : DecimalNumeral} {precision scale : Nat}

/-- The number that the digits name when the point is moved by `scale` places. -/
def shifted (numeral : DecimalNumeral) (scale : Nat) : Nat :=
  Number.digitsValue numeral.whole * 10 ^ scale
    + Number.digitsValue numeral.fraction * 10 ^ (scale - numeral.fraction.length)

theorem magnitude_nonneg (numeral : DecimalNumeral) : 0 ≤ numeral.magnitude := by
  unfold magnitude
  positivity

theorem abs_value (numeral : DecimalNumeral) : |numeral.value| = numeral.magnitude := by
  rw [value]
  split
  · rw [abs_neg, abs_of_nonneg numeral.magnitude_nonneg]
  · rw [abs_of_nonneg numeral.magnitude_nonneg]

theorem magnitude_mul (places : numeral.fraction.length ≤ scale) :
    numeral.magnitude * 10 ^ scale = numeral.shifted scale := by
  have power : (10 : ℚ) ^ scale
      = 10 ^ (scale - numeral.fraction.length) * 10 ^ numeral.fraction.length := by
    rw [← pow_add, Nat.sub_add_cancel places]
  rw [magnitude, shifted, add_mul, Nat.cast_add, Nat.cast_mul, Nat.cast_mul, Nat.cast_pow,
    Nat.cast_pow, Nat.cast_ofNat]
  congr 1
  rw [power]
  field_simp

theorem value_mul (places : numeral.fraction.length ≤ scale) :
    numeral.value * 10 ^ scale =
      (if numeral.negative then -(numeral.shifted scale : ℤ) else numeral.shifted scale : ℤ) := by
  rw [value]
  split
  · rw [neg_mul, magnitude_mul places, Int.cast_neg, Int.cast_natCast]
  · rw [magnitude_mul places, Int.cast_natCast]

theorem abs_value_mul_lt_iff (places : numeral.fraction.length ≤ scale) (precision : Nat) :
    |numeral.value| * 10 ^ scale < 10 ^ precision ↔ numeral.shifted scale < 10 ^ precision := by
  rw [abs_value, magnitude_mul places]
  exact_mod_cast Iff.rfl

theorem isDigit_shiftedDigits (numeral : DecimalNumeral) (scale : Nat) :
    ∀ c ∈ shiftedDigits scale numeral.whole numeral.fraction, Number.isDigit c = true := by
  intro c member
  rw [shiftedDigits, List.append_assoc, List.mem_append, List.mem_append] at member
  rcases member with member | member | member
  · exact numeral.isDigit_whole ((List.dropWhile_sublist _).subset member)
  · exact numeral.isDigit_fraction member
  · rw [List.eq_of_mem_replicate member]
    decide

theorem digitsValue_shiftedDigits (places : numeral.fraction.length ≤ scale) :
    Number.digitsValue (shiftedDigits scale numeral.whole numeral.fraction) =
      numeral.shifted scale := by
  rw [shiftedDigits, List.append_assoc, Number.digitsValue_append, Number.digitsValue_append,
    Number.digitsValue_significant, Number.digitsValue_zeros, List.length_append,
    List.length_replicate, Nat.add_sub_cancel' places, Nat.add_zero, shifted]

/-- The places behind the point count less than one before it. -/
theorem fraction_lt (places : numeral.fraction.length ≤ scale) :
    Number.digitsValue numeral.fraction * 10 ^ (scale - numeral.fraction.length) < 10 ^ scale := by
  have less : Number.digitsValue numeral.fraction < 10 ^ numeral.fraction.length :=
    Number.digitsValue_lt fun c member => numeral.isDigit_fraction member
  calc
    _ < 10 ^ numeral.fraction.length * 10 ^ (scale - numeral.fraction.length) :=
      Nat.mul_lt_mul_of_pos_right less (Nat.pow_pos (by decide))
    _ = 10 ^ scale := by rw [← pow_add, Nat.add_sub_cancel' places]

/-- How many digits there are tells whether the number is below a power of ten. -/
theorem length_le_iff (places : numeral.fraction.length ≤ scale) (within : scale ≤ precision) :
    (numeral.whole.dropWhile (· == '0')).length + scale ≤ precision ↔
      numeral.shifted scale < 10 ^ precision := by
  have behind := fraction_lt places
  have power : 10 ^ precision = 10 ^ (precision - scale) * 10 ^ scale := by
    rw [← pow_add, Nat.sub_add_cancel within]
  rw [← Nat.le_sub_iff_add_le within,
    Number.length_significant_le_iff fun c member => numeral.isDigit_whole member, shifted, power]
  generalize Number.digitsValue numeral.whole = whole
  generalize Number.digitsValue numeral.fraction * _ = rest at behind ⊢
  constructor
  · intro small
    calc
      whole * 10 ^ scale + rest < whole * 10 ^ scale + 10 ^ scale := Nat.add_lt_add_left behind _
      _ = (whole + 1) * 10 ^ scale := by rw [Nat.succ_mul]
      _ ≤ 10 ^ (precision - scale) * 10 ^ scale := Nat.mul_le_mul_right _ small
  · intro small
    exact Nat.lt_of_mul_lt_mul_right ((Nat.le_add_right _ rest).trans_lt small)

/-- The width of the stored integers leaves room for every precision. -/
theorem inSignedRange_of_abs_lt {unscaled : Int} (last : precision ≤ 38)
    (bound : |unscaled| < 10 ^ precision) : Number.InSignedRange 128 unscaled := by
  have room : (10 : Int) ^ precision ≤ 10 ^ 38 := pow_le_pow_right₀ (by decide) last
  have width : (10 : Int) ^ 38 ≤ Nat.pow 2 127 := by decide
  obtain ⟨least, most⟩ := abs_lt.mp (bound.trans_le (room.trans width))
  exact ⟨least.le, most⟩

theorem readMagnitude?_shiftedDigits (last : precision ≤ 38)
    (places : numeral.fraction.length ≤ scale) (bound : numeral.shifted scale < 10 ^ precision) :
    readMagnitude? (shiftedDigits scale numeral.whole numeral.fraction) =
      some (numeral.shifted scale : Int) := by
  rw [readMagnitude?, ← digitsValue_shiftedDigits places]
  split
  · rename_i empty
    rw [List.isEmpty_iff.mp empty]
    rfl
  · rename_i nonempty
    refine Number.signed?_digits ?_ (numeral.isDigit_shiftedDigits scale) ?_
    · rintro empty
      exact nonempty (List.isEmpty_iff.mpr empty)
    · rw [digitsValue_shiftedDigits places]
      apply inSignedRange_of_abs_lt last
      rw [Nat.abs_cast]
      exact_mod_cast bound

end DecimalNumeral

end RemoteQuery.Columnar
