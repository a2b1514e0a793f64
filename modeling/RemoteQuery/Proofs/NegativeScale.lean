import RemoteQuery.Proofs.DecimalColumns

/-!
# Decimals of negative scale

A decimal type of negative scale counts tens, hundreds and so on: what is stored stands for as many
times itself. Texts are read as if the scale were zero. So what is stored for a text is its number,
which stands for the number only if that is zero, and a number is taken whether or not it is a
multiple of what is counted.
-/
namespace RemoteQuery.Columnar

/-- The number that a stored integer stands for in a decimal type of the scale. -/
def standsFor (scale : Int) (unscaled : Int) : ℚ := unscaled * 10 ^ (-scale)

variable {precision : Nat} {scale : Int}

theorem readDecimal_of_nonpos (nonpos : scale ≤ 0) (text : List Char) :
    readDecimal precision scale text = readDecimal precision (0 : Nat) text := by
  rw [readDecimal, readDecimal, Int.toNat_of_nonpos nonpos, Int.toNat_natCast]

theorem readCell_decimal_of_nonpos (nonpos : scale ≤ 0) (text : String) :
    readCell (.decimal precision scale) text = readCell (.decimal precision (0 : Nat)) text := by
  rw [readCell, readCell, readDecimal_of_nonpos nonpos]

/-- A numeral is taken if it has no place behind the point and room in the precision, and its number
is stored. -/
theorem DecimalNumeral.Spells.admits_zero_iff {numeral : DecimalNumeral} {text : List Char}
    (h : numeral.Spells text) {unscaled : Int} :
    Admits precision 0 text unscaled ↔
      numeral.fraction = [] ∧ |numeral.value| < 10 ^ precision ∧
        (unscaled : ℚ) = numeral.value := by
  constructor
  · rintro ⟨other, another, fits, stored⟩
    obtain rfl := another.unique h
    have bound := fits.bound
    rw [pow_zero, mul_one] at bound stored
    exact ⟨List.length_eq_zero_iff.mp (Nat.le_zero.mp fits.places), bound, stored⟩
  · rintro ⟨integral, bound, stored⟩
    refine ⟨numeral, h, ⟨?_, ?_⟩, ?_⟩
    · rw [integral, List.length_nil]
    · rwa [pow_zero, mul_one]
    · rwa [pow_zero, mul_one]

theorem mul_zpow_neg_eq_self_iff (negative : scale < 0) {value : ℚ} :
    value * 10 ^ (-scale) = value ↔ value = 0 := by
  have large : (1 : ℚ) < 10 ^ (-scale) := one_lt_zpow₀ (by norm_num) (by omega)
  rw [mul_right_eq_self₀]
  exact ⟨fun h => h.resolve_left large.ne', .inr⟩

/-- The columnar format takes every negative scale. -/
theorem LawfulTypes.negative_iff {fault? : SqlType → Option Fault} (laws : LawfulTypes fault?)
    (negative : scale < 0) :
    fault? (.decimal precision scale) = none ↔ 1 ≤ precision ∧ precision ≤ 38 := by
  rw [laws.decimal_iff]
  constructor
  · rintro ⟨first, last, _⟩
    exact ⟨first, last⟩
  · rintro ⟨first, last⟩
    exact ⟨first, last, by omega⟩

theorem readCell_negative_eq_ok_iff (negative : scale < 0) (last : precision ≤ 38) (text : String)
    (value : Value) :
    readCell (.decimal precision scale) text = .ok value ↔
      ∃ unscaled, Admits precision 0 (Text.trim text.toList) unscaled ∧
        value = .integer unscaled := by
  rw [readCell_decimal_of_nonpos negative.le]
  exact readCell_decimal_eq_ok_iff last (Nat.zero_le precision) text value

theorem firstUnreadable_negative_iff (negative : scale < 0) (last : precision ≤ 38)
    {cells : List (Option String)} {row : Nat} {fault : Fault} :
    FirstUnreadable (.decimal precision scale) cells row fault ↔
      ∃ cause, FirstRefused precision 0 cells row cause ∧ fault = .decimal cause := by
  rw [← firstUnreadable_decimal_iff last (Nat.zero_le precision)]
  simp only [FirstUnreadable, Unreadable, readCell_decimal_of_nonpos negative.le]

/-- A column of a negative scale keeps the scale in its type and takes texts as if the scale were
zero: whole numbers below the bound of the precision, each stored as itself. What is stored stands
therefore for the number times a power of ten, and for the number only if that is zero. -/
theorem negative_scale_column {scale : Int} (negative : scale < 0) (precision : Nat)
    (cells : List (Option String)) (column : String) :
    (∀ array, buildArray (.decimal precision scale) cells column = .ok array ↔
      (1 ≤ precision ∧ precision ≤ 38) ∧ array.type = .decimal128 precision scale ∧
        List.Forall₂ (HoldsDecimal precision 0) cells array.values) ∧
    (1 ≤ precision → precision ≤ 38 → ∀ error,
      buildArray (.decimal precision scale) cells column = .error error ↔
        ∃ row fault, FirstRefused precision 0 cells row fault ∧
          error = .conversion row column fault.message) ∧
    ∀ (numeral : DecimalNumeral) (text : List Char), numeral.Spells text → ∀ unscaled,
      (Admits precision 0 text unscaled ↔ numeral.fraction = [] ∧
        |numeral.value| < 10 ^ precision ∧ (unscaled : ℚ) = numeral.value) ∧
      (Admits precision 0 text unscaled →
        standsFor scale unscaled = numeral.value * 10 ^ (-scale) ∧
          (standsFor scale unscaled = numeral.value ↔ numeral.value = 0)) := by
  refine ⟨?_, ?_, ?_⟩
  · intro array
    constructor
    · intro built
      have sound : typeFault? (.decimal precision scale) = none := by
        rw [buildArray] at built
        split at built
        · cases built
        · assumption
      have bounds := (lawfulTypes.negative_iff negative).mp sound
      exact ⟨bounds, (buildArray_integers_eq_ok_iff sound
        (readCell_negative_eq_ok_iff negative bounds.2)).mp built⟩
    · rintro ⟨bounds, held⟩
      exact (buildArray_integers_eq_ok_iff ((lawfulTypes.negative_iff negative).mpr bounds)
        (readCell_negative_eq_ok_iff negative bounds.2)).mpr held
  · intro first last error
    rw [buildArray_eq_error_iff ((lawfulTypes.negative_iff negative).mpr ⟨first, last⟩)]
    simp only [firstUnreadable_negative_iff negative last]
    constructor
    · rintro ⟨row, _, ⟨cause, refused, rfl⟩, rfl⟩
      exact ⟨row, cause, refused, rfl⟩
    · rintro ⟨row, cause, refused, rfl⟩
      exact ⟨row, _, ⟨cause, refused, rfl⟩, rfl⟩
  · intro numeral text spelled unscaled
    refine ⟨spelled.admits_zero_iff, ?_⟩
    intro admitted
    have stands : standsFor scale unscaled = numeral.value * 10 ^ (-scale) := by
      rw [standsFor, (spelled.admits_zero_iff.mp admitted).2.2]
    rw [stands, mul_zpow_neg_eq_self_iff negative]
    exact ⟨rfl, Iff.rfl⟩

/-- Twelve hundred is stored as itself where hundreds are counted, zero under any sign, and a number
of too many digits is refused. -/
theorem negative_scale_column_hundreds :
    let cells := [some " 1200 ", none, some "-0."]
    let values := [some (.integer 1200), none, some (.integer 0)]
    (-2 : Int) < 0 ∧ List.Forall₂ (HoldsDecimal 5 0) cells values ∧
      ∃ row fault, FirstRefused 5 0 [some "100000"] row fault ∧
        DataError.conversion 0 "c" "Decimal value 100000 exceeds precision 5" =
          .conversion row "c" fault.message := by
  intro cells values
  have negative : (-2 : Int) < 0 := by decide
  have built : buildArray (.decimal 5 (-2)) cells "c" = .ok ⟨.decimal128 5 (-2), values⟩ := by rfl
  have failed : buildArray (.decimal 5 (-2)) [some "100000"] "c" =
      .error (.conversion 0 "c" "Decimal value 100000 exceeds precision 5") := by rfl
  obtain ⟨accepts, _⟩ := negative_scale_column negative 5 cells "c"
  obtain ⟨_, refuses, _⟩ := negative_scale_column negative 5 [some "100000"] "c"
  exact ⟨negative, ((accepts _).mp built).2.2, (refuses (by decide) (by decide) _).mp failed⟩

/-- What is stored for twelve hundred stands for a hundred times as much. -/
theorem not_number_kept_at_negative_scale :
    ¬ ∀ precision scale cells column array, scale < 0 →
      buildArray (.decimal precision scale) cells column = .ok array →
      ∀ (row : Nat) text unscaled (numeral : DecimalNumeral), cells[row]? = some (some text) →
        array.values[row]? = some (some (.integer unscaled)) →
        numeral.Spells (Text.trim text.toList) → standsFor scale unscaled = numeral.value := by
  intro kept
  let numeral : DecimalNumeral :=
    ⟨false, "1200".toList, [], List.all_eq_true.mp (by decide), by decide⟩
  have built : buildArray (.decimal 5 (-2)) [some "1200"] "c" =
      .ok ⟨.decimal128 5 (-2), [some (.integer 1200)]⟩ := by rfl
  have spelled : numeral.Spells (Text.trim "1200".toList) :=
    @DecimalNumeral.Spells.plain numeral [] (by decide) rfl
  have same := kept 5 (-2) _ "c" _ (by decide) built 0 _ 1200 numeral rfl rfl spelled
  have digits : Number.digitsValue numeral.whole = 1200 := by rfl
  have value : numeral.value = 1200 := by
    change numeral.magnitude = 1200
    rw [DecimalNumeral.magnitude, digits]
    norm_num [numeral, Number.digitsValue]
  rw [value, standsFor] at same
  norm_num at same

end RemoteQuery.Columnar
