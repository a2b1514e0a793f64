import RemoteQuery.Number.Numeral
import RemoteQuery.Text.Cut

/-!
# Dates

Days are counted from the first of January 1970 in the Gregorian calendar, extended to all years.
The year is counted from March on, so that the leap day ends it, and four hundred years make an
era of a fixed number of days.

Numbers are counted without bound here. The count of a machine has 64 bits, and says nothing of a
date at which one of its values does not fit them.
-/
namespace RemoteQuery.Calendar

def isLeapYear (year : Int) : Bool := (year % 4 == 0 && year % 100 != 0) || year % 400 == 0

def daysInMonth (year : Int) (month : Nat) : Nat :=
  match month with
  | 2 => if isLeapYear year then 29 else 28
  | 4 | 6 | 9 | 11 => 30
  | _ => 31

def daysPerEra : Int := 146097

/-- The day on which the count starts, counted from the first of March of year zero. -/
def epoch : Int := 719468

def dayNumber (year : Int) (month day : Nat) : Int :=
  let year := if month ≤ 2 then year - 1 else year
  let era := year / 400
  let yearOfEra := year - era * 400
  let monthFromMarch : Int := if 2 < month then month - 3 else month + 9
  let dayOfYear := (153 * monthFromMarch + 2) / 5 + day - 1
  let dayOfEra := yearOfEra * 365 + yearOfEra / 4 - yearOfEra / 100 + dayOfYear
  era * daysPerEra + dayOfEra - epoch

def IsDate (year : Int) (month day : Nat) : Prop :=
  1 ≤ month ∧ month ≤ 12 ∧ 1 ≤ day ∧ day ≤ daysInMonth year month

instance (year : Int) (month day : Nat) : Decidable (IsDate year month day) :=
  inferInstanceAs (Decidable (_ ∧ _))

/-- Year, month and day between hyphens: numerals of 64, 32 and 32 bits. -/
def readFields? (text : List Char) : Option (Int × Nat × Nat) := do
  let (year, rest) ← Text.cut? (· == '-') text
  let (month, day) ← Text.cut? (· == '-') rest
  return (← Number.signed? 64 year, ← Number.unsigned? 32 month, ← Number.unsigned? 32 day)

/-- The day number of a written date. -/
def readDate? (text : List Char) : Option Int := do
  let (year, month, day) ← readFields? text
  if IsDate year month day then some (dayNumber year month day) else none

/-- Some value does not fit 64 bits. -/
def passes64 (values : List Int) : Bool :=
  values.any fun value => !decide (Number.InSignedRange 64 value)

/-- The values on the way to a day number that can be large, in the order in which they come up. -/
def dayNumberSteps (year : Int) (month day : Nat) : List Int :=
  let number := dayNumber year month day
  let year := if month ≤ 2 then year - 1 else year
  let era := year / 400
  [year, era * 400, era * daysPerEra, number + epoch, number]

/-- The text is a date whose day number is not reached within 64 bits. -/
def datePasses64 (text : List Char) : Bool :=
  match readFields? text with
  | some (year, month, day) =>
    decide (IsDate year month day) && passes64 (dayNumberSteps year month day)
  | none => false

end RemoteQuery.Calendar
