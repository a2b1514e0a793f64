import RemoteQuery.Proofs.ColumnReading
import RemoteQuery.Proofs.DateReading

/-!
# Columns of dates

A column of dates is built just when every text in it names a day whose number has 32 bits, and
holds these numbers; each of them has a text that it is read from.
-/
namespace RemoteQuery.Columnar

open Calendar (Date IsGregorian readDate?)

def HoldsDate : Option String → Option Value → Prop :=
  HoldsInteger fun text number =>
    (Date.ofNumber number).NamedBy (Text.trim text.toList) ∧ Number.InSignedRange 32 number

/-- Why a text is no date of a column, with the message. -/
inductive RefusesDate (text : String) : String → Prop
  | unnamed (none : ∀ date : Date, ¬ date.NamedBy (Text.trim text.toList)) :
      RefusesDate text ("Invalid date: " ++ text)
  | outside {number : Int} (named : (Date.ofNumber number).NamedBy (Text.trim text.toList))
      (far : ¬ Number.InSignedRange 32 number) :
      RefusesDate text ("Date out of range: " ++ text)

/-- A cell with a written date that 32 bits hold, and the number of the date. -/
inductive WrittenDate : Option String → Option Int → Prop
  | null : WrittenDate none none
  | text {number : Int} (zeros : Nat) (within : Number.InSignedRange 32 number)
      (since : 0 ≤ (Date.ofNumber number).year) :
      WrittenDate (some (String.ofList ((Date.ofNumber number).written (4 + zeros)))) (some number)

theorem readCell_date_eq_ok_iff (text : String) (value : Value) :
    readCell .date text = .ok value ↔
      ∃ number, ((Date.ofNumber number).NamedBy (Text.trim text.toList) ∧
        Number.InSignedRange 32 number) ∧ value = .integer number := by
  rw [readCell, readDate]
  constructor
  · intro read
    split at read
    · cases read
    · rename_i number found
      split at read
      · rename_i within
        cases read
        exact ⟨number, ⟨Calendar.readDate?_eq_some_iff.mp found, within⟩, rfl⟩
      · cases read
  · rintro ⟨number, ⟨named, within⟩, rfl⟩
    rw [Calendar.readDate?_eq_some_iff.mpr named]
    exact if_pos within

theorem refusesDate_iff (text message : String) :
    RefusesDate text message ↔
      ∃ fault, readCell .date text = .error fault ∧ fault.message = message := by
  rw [readCell, readDate]
  constructor
  · intro refused
    cases refused with
    | unnamed none =>
      rw [Calendar.readDate?_eq_none_iff.mpr none]
      exact ⟨_, rfl, rfl⟩
    | outside named far =>
      rw [Calendar.readDate?_eq_some_iff.mpr named]
      exact ⟨_, if_neg far, rfl⟩
  · rintro ⟨fault, failed, rfl⟩
    split at failed
    · rename_i unread
      cases failed
      exact .unnamed (Calendar.readDate?_eq_none_iff.mp unread)
    · rename_i number found
      split at failed
      · cases failed
      · rename_i far
        cases failed
        exact .outside (Calendar.readDate?_eq_some_iff.mp found) far

theorem WrittenDate.reads {cell : Option String} {number : Option Int}
    (h : WrittenDate cell number) : Reads .date cell (number.map .integer) := by
  cases h with
  | null => trivial
  | @text number zeros within since =>
    have solid : ∀ c ∈ (Date.ofNumber number).written (4 + zeros), Text.isBlank c = false :=
      fun c member => Number.isBlank_of_isNumeral (Date.isNumeral_written _ _ c member)
    have bound : (Date.ofNumber number).year < Nat.pow 2 63 := by
      have start := (Date.ofNumber number).dayNumber_start_le
      rw [Date.number_ofNumber, Calendar.dayNumber_of_le_two (by decide),
        Calendar.daysBeforeMarch, Calendar.epoch] at start
      have last : number < 2147483648 := within.2
      change (Date.ofNumber number).year < 9223372036854775808
      omega
    apply (readCell_date_eq_ok_iff _ _).mpr
    refine ⟨number, ⟨?_, within⟩, rfl⟩
    rw [String.toList_ofList, (Text.hasSolidEnds_of_solid solid).trim_eq]
    exact Date.namedBy_written _ since bound

/-- A column of dates is built just when each text in it names a date whose number 32 bits hold, and
stores the numbers, which count the days from the first of January 1970 on; else the first text that
does not is to blame. The dates are those of the calendar. A date of a year that is not negative is
read back from its text, whatever zeros stand in front of the year. -/
theorem date_column_exact (cells : List (Option String)) (column : String) :
    (∀ array, buildArray .date cells column = .ok array ↔
      array.type = .date32 ∧ List.Forall₂ HoldsDate cells array.values) ∧
    (∀ error, buildArray .date cells column = .error error ↔
      ∃ row message, FirstFaulty RefusesDate cells row message ∧
        error = .conversion row column message) ∧
    (∀ year month day, (∃ date : Date, date.year = year ∧ date.month = month ∧ date.day = day) ↔
      IsGregorian year month day) ∧
    ∀ numbers, List.Forall₂ WrittenDate cells numbers →
      buildArray .date cells column = .ok ⟨.date32, numbers.map (Option.map .integer)⟩ := by
  refine ⟨?_, ?_, ?_, ?_⟩
  · intro array
    exact buildArray_integers_eq_ok_iff rfl readCell_date_eq_ok_iff
  · intro error
    exact buildArray_refuses_iff rfl refusesDate_iff
  · intro year month day
    rw [← Calendar.isDate_iff_isGregorian]
    constructor
    · rintro ⟨date, rfl, rfl, rfl⟩
      exact date.valid
    · intro valid
      exact ⟨⟨year, month, day, valid⟩, rfl, rfl, rfl⟩
  · intro numbers written
    apply buildArray_of_reads rfl
    rw [List.forall₂_map_right_iff]
    exact written.imp fun _ _ => WrittenDate.reads

/-- Zeros in front of a year, the day before the count begins, and the first date that 32 bits do
not hold. -/
theorem date_column_exact_ends :
    buildArray .date [some "1970-01-01", none, some "001969-12-31"] "c" =
        .ok ⟨.date32, [some (.integer 0), none, some (.integer (-1))]⟩ ∧
      ∃ row message, FirstFaulty RefusesDate [none, some "5881580-07-12"] row message ∧
        DataError.conversion 1 "c" "Date out of range: 5881580-07-12" =
          .conversion row "c" message := by
  obtain ⟨_, _, _, reads⟩ :=
    date_column_exact [some "1970-01-01", none, some "001969-12-31"] "c"
  obtain ⟨_, refuses, _⟩ := date_column_exact [none, some "5881580-07-12"] "c"
  constructor
  · have first : WrittenDate (some "1970-01-01") (some 0) := by
      have spelled : String.ofList ((Date.ofNumber 0).written (4 + 0)) = "1970-01-01" := by decide
      rw [← spelled]
      exact .text 0 (by decide) (by decide)
    have last : WrittenDate (some "001969-12-31") (some (-1)) := by
      have spelled : String.ofList ((Date.ofNumber (-1)).written (4 + 2)) = "001969-12-31" := by
        decide
      rw [← spelled]
      exact .text 2 (by decide) (by decide)
    exact reads [some 0, none, some (-1)] (.cons first (.cons .null (.cons last .nil)))
  · exact (refuses _).mp rfl

end RemoteQuery.Columnar
