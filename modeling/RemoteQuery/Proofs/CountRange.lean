import Mathlib.Data.List.Forall2
import RemoteQuery.Columnar.ColumnArray

/-!
# Counts within 64 bits

A date has no day number where the count of its days does not fit 64 bits, and a timestamp none
where its day or its second does not. The count of days is the largest value on the way to a day
number, so that it alone decides.
-/
namespace RemoteQuery.Calendar

theorem passes64_eq_true_iff {values : List Int} :
    passes64 values = true ↔ ∃ value ∈ values, ¬ Number.InSignedRange 64 value := by
  simp [passes64]

/-- The count of days does not fit 64 bits, with the days before the epoch or without. -/
def FarDate (year : Int) (month day : Nat) : Prop :=
  ¬ Number.InSignedRange 64 (dayNumber year month day + epoch) ∨
    ¬ Number.InSignedRange 64 (dayNumber year month day)

/-- The count of days is that of whole eras, counted in years that begin in March, and of what is
left of one. -/
theorem dayNumber_of_eras {year : Int} {month day : Nat} (real : IsDate year month day) :
    ∃ rest : Int, 0 ≤ rest ∧ rest < 150000 ∧
      dayNumber year month day + epoch =
        (if month ≤ 2 then year - 1 else year) / 400 * daysPerEra + rest := by
  obtain ⟨first, last, early, late⟩ := real
  have days : daysInMonth year month ≤ 31 := by
    unfold daysInMonth
    repeat' split
    all_goals omega
  refine ⟨dayNumber year month day + epoch -
    (if month ≤ 2 then year - 1 else year) / 400 * daysPerEra, ?_, ?_, by omega⟩
  all_goals
    unfold dayNumber epoch daysPerEra
    simp only
    generalize (if month ≤ 2 then year - 1 else year) = march
    split <;> omega

theorem inSignedRange_64_iff {value : Int} :
    Number.InSignedRange 64 value ↔
      -9223372036854775808 ≤ value ∧ value < 9223372036854775808 := Iff.rfl

/-- The eras of a date whose days can be counted are so few that nothing else is too large. -/
theorem inSignedRange_dayNumberSteps {year : Int} {month day : Nat} (real : IsDate year month day)
    (count : Number.InSignedRange 64 (dayNumber year month day + epoch))
    (number : Number.InSignedRange 64 (dayNumber year month day)) :
    ∀ value ∈ dayNumberSteps year month day, Number.InSignedRange 64 value := by
  obtain ⟨rest, least, most, eras⟩ := dayNumber_of_eras real
  simp only [dayNumberSteps, List.forall_mem_cons]
  refine ⟨?_, ?_, ?_, count, number, nofun⟩
  all_goals
    simp only [inSignedRange_64_iff] at count number ⊢
    simp only [epoch, daysPerEra] at count eras ⊢
    generalize (if month ≤ 2 then year - 1 else year) = march at eras ⊢
    omega

theorem passes64_dayNumberSteps_iff {year : Int} {month day : Nat} (real : IsDate year month day) :
    passes64 (dayNumberSteps year month day) = true ↔ FarDate year month day := by
  rw [passes64_eq_true_iff]
  constructor
  · rintro ⟨value, step, large⟩
    by_contra near
    obtain ⟨count, number⟩ := not_or.mp near
    refine large (inSignedRange_dayNumberSteps real ?_ ?_ value step)
    · exact not_not.mp count
    · exact not_not.mp number
  · rintro (large | large)
    · exact ⟨_, by simp [dayNumberSteps], large⟩
    · exact ⟨_, by simp [dayNumberSteps], large⟩

/-- The text is a date that is too far away. -/
def NamesFarDate (text : List Char) : Prop :=
  ∃ year month day, readFields? text = some (year, month, day) ∧ IsDate year month day ∧
    FarDate year month day

theorem datePasses64_iff {text : List Char} : datePasses64 text = true ↔ NamesFarDate text := by
  rw [datePasses64]
  cases fields : readFields? text with
  | none => exact ⟨nofun, fun ⟨_, _, _, named, _⟩ => nomatch fields.symm.trans named⟩
  | some found =>
    obtain ⟨year, month, day⟩ := found
    simp only [Bool.and_eq_true, decide_eq_true_eq]
    constructor
    · rintro ⟨real, large⟩
      exact ⟨year, month, day, fields, real, (passes64_dayNumberSteps_iff real).mp large⟩
    · rintro ⟨_, _, _, named, real, far⟩
      cases fields.symm.trans named
      exact ⟨real, (passes64_dayNumberSteps_iff real).mpr far⟩

end RemoteQuery.Calendar

namespace RemoteQuery.Columnar

open Calendar in
/-- The arithmetic of a text that is written as its type asks does not fit 64 bits. -/
inductive BeyondWord : SqlType → String → Prop
  | date {text : String} (far : NamesFarDate (Text.trim text.toList)) : BeyondWord .date text
  | day {text : String} {date clock fraction : List Char}
      (split : splitTimestamp (Text.trim text.toList) = (date, clock, fraction))
      (far : NamesFarDate date) : BeyondWord .timestamp text
  | second {text : String} {date clock fraction : List Char}
      {day hours minutes seconds micros value : Int}
      (split : splitTimestamp (Text.trim text.toList) = (date, clock, fraction))
      (dated : readDate? date = some day)
      (clocked : readClockFields? clock = some (hours, minutes, seconds))
      (divided : readFraction? fraction = some micros)
      (step : value ∈ secondsSteps day hours minutes seconds)
      (large : ¬ Number.InSignedRange 64 value) : BeyondWord .timestamp text

open Calendar in
theorem passes64_iff {type : SqlType} {text : String} :
    passes64 type text = true ↔ BeyondWord type text := by
  constructor
  · intro passes
    cases type with
    | date => exact .date (datePasses64_iff.mp passes)
    | timestamp =>
      simp only [passes64, timestampPasses64, Bool.or_eq_true] at passes
      rcases split : splitTimestamp (Text.trim text.toList) with ⟨date, clock, fraction⟩
      rw [split] at passes
      rcases passes with far | passes
      · exact .day split (datePasses64_iff.mp far)
      · split at passes
        · rename_i dated clocked divided
          obtain ⟨value, step, large⟩ := passes64_eq_true_iff.mp passes
          exact .second split dated clocked divided step large
        · cases passes
    | _ => cases passes
  · intro beyond
    cases beyond with
    | date far => exact datePasses64_iff.mpr far
    | day split far =>
      simp only [passes64, timestampPasses64, split, datePasses64_iff.mpr far, Bool.true_or]
    | second split dated clocked divided step large =>
      simp only [passes64, timestampPasses64, split, dated, clocked, divided, Bool.or_eq_true]
      exact .inr (passes64_eq_true_iff.mpr ⟨_, step, large⟩)

end RemoteQuery.Columnar
