import RemoteQuery.Proofs.ColumnTypes
import RemoteQuery.Proofs.DecimalReading

/-!
# Columns of decimals

A column of decimals is built just when every text in it can be stored under its precision and
scale, and holds the numbers that the texts name.
-/
namespace RemoteQuery.Columnar

open DecimalNumeral

def HoldsDecimal (precision scale : Nat) : Option String → Option Value → Prop :=
  HoldsInteger fun text unscaled => Admits precision scale (Text.trim text.toList) unscaled

/-- The first cell that is no decimal of the precision and scale, with what is wrong with it. -/
def FirstRefused (precision scale : Nat) (cells : List (Option String)) (row : Nat)
    (fault : DecimalFault) : Prop :=
  (∃ text, cells[row]? = some (some text) ∧
    Refuses precision scale (Text.trim text.toList) fault) ∧
  ∀ earlier < row, ∀ text, cells[earlier]? = some (some text) →
    ∃ unscaled, Admits precision scale (Text.trim text.toList) unscaled

section Columns

variable {precision scale : Nat} (last : precision ≤ 38) (within : scale ≤ precision)
include last within

theorem readCell_decimal_eq_ok_iff (text : String) (value : Value) :
    readCell (.decimal precision scale) text = .ok value ↔
      ∃ unscaled, Admits precision scale (Text.trim text.toList) unscaled ∧
        value = .integer unscaled := by
  rw [readCell]
  constructor
  · intro read
    cases found : readDecimal precision scale (Text.trim text.toList) with
    | error fault =>
      rw [found] at read
      cases read
    | ok unscaled =>
      rw [found] at read
      cases read
      exact ⟨unscaled, (readDecimal_eq_ok_iff last within).mp found, rfl⟩
  · rintro ⟨unscaled, admitted, rfl⟩
    rw [readDecimal_of_admits last within admitted]

theorem readCell_decimal_eq_error_iff {text : String} {fault : Fault} :
    readCell (.decimal precision scale) text = .error fault ↔
      ∃ cause, Refuses precision scale (Text.trim text.toList) cause ∧ fault = .decimal cause := by
  rw [readCell]
  constructor
  · intro failed
    cases read : readDecimal precision scale (Text.trim text.toList) with
    | ok unscaled =>
      rw [read] at failed
      cases failed
    | error cause =>
      rw [read] at failed
      cases failed
      exact ⟨cause, (readDecimal_eq_error_iff last within).mp read, rfl⟩
  · rintro ⟨cause, refused, rfl⟩
    rw [readDecimal_of_refuses within refused]

theorem firstUnreadable_decimal_iff {cells : List (Option String)} {row : Nat} {fault : Fault} :
    FirstUnreadable (.decimal precision scale) cells row fault ↔
      ∃ cause, FirstRefused precision scale cells row cause ∧ fault = .decimal cause := by
  constructor
  · rintro ⟨⟨text, here, failed⟩, first⟩
    obtain ⟨cause, refused, rfl⟩ := (readCell_decimal_eq_error_iff last within).mp failed
    refine ⟨cause, ⟨⟨text, here, refused⟩, ?_⟩, rfl⟩
    intro earlier less text listed
    rcases admits_or_refuses precision scale (Text.trim text.toList) with admitted | ⟨other, wrong⟩
    · exact admitted
    · have failed := (readCell_decimal_eq_error_iff last within).mpr ⟨other, wrong, rfl⟩
      exact (first earlier less _ ⟨text, listed, failed⟩).elim
  · rintro ⟨cause, ⟨⟨text, here, refused⟩, before⟩, rfl⟩
    have failed := (readCell_decimal_eq_error_iff last within).mpr ⟨cause, refused, rfl⟩
    refine ⟨⟨text, here, failed⟩, ?_⟩
    rintro earlier less fault ⟨other, listed, failed⟩
    obtain ⟨wrong, refused, rfl⟩ := (readCell_decimal_eq_error_iff last within).mp failed
    obtain ⟨unscaled, admitted⟩ := before earlier less other listed
    exact nomatch (readDecimal_of_admits last within admitted).symm.trans
      (readDecimal_of_refuses within refused)

end Columns

/-- A column of decimals is built just when every text in it spells a number of at most `scale`
places that is below `10 ^ (precision - scale)`, and what is stored is that number times
`10 ^ scale`; else the first text that does not is to blame. The digits of a number of that size
are always an integer of the width that is stored. -/
theorem decimal_column_exact {precision scale : Nat} (first : 1 ≤ precision)
    (last : precision ≤ 38) (within : scale ≤ precision) (cells : List (Option String))
    (column : String) :
    (∀ array, buildArray (.decimal precision scale) cells column = .ok array ↔
      array.type = .decimal128 precision scale ∧
        List.Forall₂ (HoldsDecimal precision scale) cells array.values) ∧
    (∀ error, buildArray (.decimal precision scale) cells column = .error error ↔
      ∃ row fault, FirstRefused precision scale cells row fault ∧
        error = .conversion row column fault.message) ∧
    (∀ text unscaled, Admits precision scale text unscaled →
      |unscaled| < 10 ^ precision ∧ Number.InSignedRange 128 unscaled) ∧
    ∀ numeral : DecimalNumeral, numeral.fraction.length ≤ scale →
      (numeral.whole.dropWhile (· == '0')).length + scale ≤ precision →
      ∃ magnitude, readMagnitude? (shiftedDigits scale numeral.whole numeral.fraction) =
        some magnitude := by
  have sound : typeFault? (.decimal precision scale) = none :=
    lawfulTypes.decimal_iff.mpr ⟨first, last, Int.ofNat_le.mpr within⟩
  refine ⟨?_, ?_, ?_, ?_⟩
  · intro array
    exact buildArray_integers_eq_ok_iff sound (readCell_decimal_eq_ok_iff last within)
  · intro error
    rw [buildArray_eq_error_iff sound]
    constructor
    · rintro ⟨row, fault, unreadable, rfl⟩
      obtain ⟨cause, refused, rfl⟩ := (firstUnreadable_decimal_iff last within).mp unreadable
      exact ⟨row, cause, refused, rfl⟩
    · rintro ⟨row, cause, refused, rfl⟩
      exact ⟨row, .decimal cause,
        (firstUnreadable_decimal_iff last within).mpr ⟨cause, refused, rfl⟩, rfl⟩
  · intro text unscaled admitted
    exact ⟨admitted.bound, inSignedRange_of_abs_lt last admitted.bound⟩
  · intro numeral places short
    exact ⟨_, readMagnitude?_shiftedDigits last places ((length_le_iff places within).mp short)⟩

/-- Digits on one side of the point only, zeros in front, and the first number without room. -/
theorem decimal_column_exact_bounds :
    let cells := [some " -.5 ", none, some "+007."]
    let values := [some (.integer (-50)), none, some (.integer 700)]
    let large := [some "999.99", some "1000"]
    List.Forall₂ (HoldsDecimal 5 2) cells values ∧
      (∃ row fault, FirstRefused 5 2 large row fault ∧
        DataError.conversion 1 "c" "Decimal value 1000 exceeds precision 5" =
          .conversion row "c" fault.message) := by
  intro cells values large
  have built : buildArray (.decimal 5 2) cells "c" = .ok ⟨.decimal128 5 2, values⟩ := by rfl
  have failed : buildArray (.decimal 5 2) large "c" =
      .error (.conversion 1 "c" "Decimal value 1000 exceeds precision 5") := by rfl
  obtain ⟨accepts, _⟩ :=
    decimal_column_exact (by decide) (by decide) (by decide : 2 ≤ 5) cells "c"
  obtain ⟨_, refuses, _⟩ :=
    decimal_column_exact (by decide) (by decide) (by decide : 2 ≤ 5) large "c"
  exact ⟨((accepts _).mp built).2, (refuses _).mp failed⟩

end RemoteQuery.Columnar
