import RemoteQuery.Proofs.ColumnReading
import RemoteQuery.Proofs.ColumnTypes
import RemoteQuery.Proofs.PrintedNumerals

/-!
# Columns of integers

There are four types of integers, which differ in their width alone. A text of such a column is a
sign, which a number that is not negative may leave out, and a row of digits, between blanks; zeros
in front do not matter. What the width does not hold is refused and does not wrap, and so an integer
that it holds comes back from its decimal text.
-/
namespace RemoteQuery

/-- The types of integers and how many bits their values have. -/
inductive SqlType.HasWidth : SqlType → Nat → Prop
  | tinyint : HasWidth .tinyint 8
  | smallint : HasWidth .smallint 16
  | integer : HasWidth .integer 32
  | bigint : HasWidth .bigint 64

namespace Columnar

open Number (InSignedRange Signed)

/-- The text is one of the integer, and the width holds it. -/
def DenotesInteger (bits : Nat) (text : String) (number : Int) : Prop :=
  Signed (Text.trim text.toList) number ∧ InSignedRange bits number

/-- The text is none of an integer that the type can hold, and the message says so. -/
def RefusesInteger (type : SqlType) (bits : Nat) (text message : String) : Prop :=
  (∀ number, ¬ DenotesInteger bits text number) ∧
    message = "Invalid " ++ type.display ++ " value: " ++ text

theorem signed?_trim_eq_some_iff {bits : Nat} {text : String} {number : Int} :
    Number.signed? bits (Text.trim text.toList) = some number ↔
      DenotesInteger bits text number := by
  rw [Number.signed?, Option.filter_eq_some_iff, decide_eq_true_iff, Number.integer?_eq_some_iff,
    DenotesInteger]

section Width

variable {type : SqlType} {bits : Nat}

theorem readCell_of_hasWidth (width : type.HasWidth bits) (text : String) :
    readCell type text = readSigned bits type.display text := by
  cases width <;> rfl

theorem typeFault?_of_hasWidth (width : type.HasWidth bits) : typeFault? type = none := by
  refine lawfulTypes.other ?_
  cases width <;> rfl

theorem readCell_integer_eq_ok_iff (width : type.HasWidth bits) (text : String) (value : Value) :
    readCell type text = .ok value ↔
      ∃ number, DenotesInteger bits text number ∧ value = .integer number := by
  rw [readCell_of_hasWidth width, readSigned]
  constructor
  · intro read
    split at read
    · rename_i number found
      cases read
      exact ⟨number, signed?_trim_eq_some_iff.mp found, rfl⟩
    · cases read
  · rintro ⟨number, denoted, rfl⟩
    rw [signed?_trim_eq_some_iff.mpr denoted]

theorem refusesInteger_iff (width : type.HasWidth bits) (text message : String) :
    RefusesInteger type bits text message ↔
      ∃ fault, readCell type text = .error fault ∧ fault.message = message := by
  rw [readCell_of_hasWidth width, readSigned]
  constructor
  · rintro ⟨none, rfl⟩
    have unread : Number.signed? bits (Text.trim text.toList) = Option.none :=
      Option.eq_none_iff_forall_ne_some.mpr fun number found =>
        none number (signed?_trim_eq_some_iff.mp found)
    rw [unread]
    exact ⟨_, rfl, rfl⟩
  · rintro ⟨fault, failed, rfl⟩
    split at failed
    · cases failed
    · rename_i unread
      cases failed
      refine ⟨fun number denoted => ?_, rfl⟩
      exact nomatch unread.symm.trans (signed?_trim_eq_some_iff.mpr denoted)

/-- The decimal text of an integer is read as that integer. -/
theorem denotesInteger_toString {number : Int} (within : InSignedRange bits number) :
    DenotesInteger bits (toString number) number := by
  have read := Number.signed?_toString within
  have solid : ∀ c ∈ (toString number).toList, Text.isBlank c = false :=
    fun c member => Number.isBlank_of_isNumeral (Number.isNumeral_of_signed? read c member)
  rw [← signed?_trim_eq_some_iff, (Text.hasSolidEnds_of_solid solid).trim_eq, read]

end Width

/-- A column of integers is built just when each text in it is one of an integer that the width of
its type holds, and stores these integers; else the first text that is not is to blame. Integers
that the width holds are read back from their decimal texts. -/
theorem integer_column_exact {type : SqlType} {bits : Nat} (width : type.HasWidth bits)
    (cells : List (Option String)) (column : String) :
    ((∃ array, buildArray type cells column = .ok array) ↔
      ∀ text, some text ∈ cells → ∃ number, DenotesInteger bits text number) ∧
    (∀ array, buildArray type cells column = .ok array ↔
      array.type = type.arrow ∧
        List.Forall₂ (HoldsInteger (DenotesInteger bits)) cells array.values) ∧
    (∀ error, buildArray type cells column = .error error ↔
      ∃ row message, FirstFaulty (RefusesInteger type bits) cells row message ∧
        error = .conversion row column message) ∧
    ∀ numbers : List (Option Int), (∀ number, some number ∈ numbers → InSignedRange bits number) →
      buildArray type (numbers.map (Option.map toString)) column =
        .ok ⟨type.arrow, numbers.map (Option.map .integer)⟩ := by
  have built (cells : List (Option String)) (array : ColumnArray) :
      buildArray type cells column = .ok array ↔
        array.type = type.arrow ∧
          List.Forall₂ (HoldsInteger (DenotesInteger bits)) cells array.values :=
    buildArray_integers_eq_ok_iff (typeFault?_of_hasWidth width) (readCell_integer_eq_ok_iff width)
  refine ⟨?_, built cells, ?_, ?_⟩
  · rw [← exists_holdsInteger_iff]
    constructor
    · rintro ⟨array, made⟩
      exact ⟨array.values, ((built cells array).mp made).2⟩
    · rintro ⟨values, held⟩
      exact ⟨⟨type.arrow, values⟩, (built cells _).mpr ⟨rfl, held⟩⟩
  · intro error
    exact buildArray_refuses_iff (typeFault?_of_hasWidth width) (refusesInteger_iff width)
  · intro numbers within
    refine (built _ _).mpr ⟨rfl, ?_⟩
    rw [List.forall₂_map_left_iff, List.forall₂_map_right_iff, List.forall₂_same]
    intro number member
    cases number with
    | none => trivial
    | some number => exact denotesInteger_toString (within number member)

/-- Both ends of the narrowest type, one behind zeros and between blanks, and the first number that
it does not hold. -/
theorem integer_column_exact_ends :
    buildArray .tinyint [some "-128", none, some " +00127 "] "c" =
        .ok ⟨.int8, [some (.integer (-128)), none, some (.integer 127)]⟩ ∧
      (∃ row message,
        FirstFaulty (RefusesInteger .tinyint 8) [none, some "128", some "-"] row message ∧
          DataError.conversion 1 "c" "Invalid tinyint value: 128" = .conversion row "c" message) ∧
      buildArray .bigint [some (toString (-(Nat.pow 2 63 : Int)))] "c" =
        .ok ⟨.int64, [some (.integer (-(Nat.pow 2 63 : Int)))]⟩ := by
  obtain ⟨_, built, _⟩ :=
    integer_column_exact .tinyint [some "-128", none, some " +00127 "] "c"
  obtain ⟨_, _, refuses, _⟩ := integer_column_exact .tinyint [none, some "128", some "-"] "c"
  obtain ⟨_, _, _, reads⟩ := integer_column_exact .bigint [] "c"
  refine ⟨(built _).mpr ⟨rfl, ?_⟩, (refuses _).mp rfl, ?_⟩
  · have first : DenotesInteger 8 "-128" (-128) := signed?_trim_eq_some_iff.mp (by decide)
    have last : DenotesInteger 8 " +00127 " 127 := signed?_trim_eq_some_iff.mp (by decide)
    exact .cons first (.cons trivial (.cons last .nil))
  · refine reads [some (-(Nat.pow 2 63 : Int))] ?_
    rintro number member
    cases List.mem_singleton.mp member
    decide

end Columnar

end RemoteQuery
