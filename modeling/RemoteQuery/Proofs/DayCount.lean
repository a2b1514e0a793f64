import Mathlib.Tactic.IntervalCases
import RemoteQuery.Calendar.Date

/-!
# Day numbers count the days

The number of a date is given in closed form, by eras of four hundred years that begin in March.
What it says is that days are numbered one after the other: the day after a date has the next
number, whatever month, year, century or era ends between them. From this it follows that the
numbers are in the order of the dates, and that each integer is the number of one date. The lengths
of the months are those of the calendar; years are any integers.
-/
namespace RemoteQuery.Calendar

/-- A date that the calendar has. -/
@[ext]
structure Date where
  year : Int
  month : Nat
  day : Nat
  valid : IsDate year month day

namespace Date

def number (date : Date) : Int := dayNumber date.year date.month date.day

/-- The order of year, month and day, of which the first that differs decides. -/
def Before (date later : Date) : Prop :=
  date.year < later.year ∨ date.year = later.year ∧
    (date.month < later.month ∨ date.month = later.month ∧ date.day < later.day)

end Date

theorem daysInMonth_pos (year : Int) (month : Nat) : 1 ≤ daysInMonth year month := by
  unfold daysInMonth
  split
  · split <;> decide
  all_goals decide

theorem isLeapYear_iff {year : Int} :
    isLeapYear year = true ↔ year % 4 = 0 ∧ year % 100 ≠ 0 ∨ year % 400 = 0 := by
  simp [isLeapYear]

/-- The days from the first of March of year zero to the first of March of a year. -/
def daysBeforeMarch (year : Int) : Int := year * 365 + year / 4 - year / 100 + year / 400

/-- Four hundred years have as many days in every era. -/
theorem daysBeforeMarch_eq_era (year : Int) :
    daysBeforeMarch year =
      year / 400 * daysPerEra + ((year - year / 400 * 400) * 365 + (year - year / 400 * 400) / 4
        - (year - year / 400 * 400) / 100) := by
  unfold daysBeforeMarch daysPerEra
  omega

/-- Between two firsts of March lies the leap day of the later year, if it has one. -/
theorem daysBeforeMarch_step (year : Int) :
    daysBeforeMarch year =
      daysBeforeMarch (year - 1) + 337 + daysInMonth year 2 := by
  unfold daysBeforeMarch
  by_cases leap : isLeapYear year = true
  · have length : daysInMonth year 2 = 29 := if_pos leap
    rw [isLeapYear_iff] at leap
    omega
  · have length : daysInMonth year 2 = 28 := if_neg leap
    rw [isLeapYear_iff] at leap
    omega

theorem dayNumber_of_le_two {year : Int} {month : Nat} (early : month ≤ 2) (day : Nat) :
    dayNumber year month day =
      daysBeforeMarch (year - 1) + (153 * (month + 9) + 2) / 5 + day - 1 - epoch := by
  rw [daysBeforeMarch_eq_era, dayNumber]
  simp only [if_pos early, if_neg (Nat.not_lt.mpr early)]
  omega

theorem dayNumber_of_two_lt {year : Int} {month : Nat} (late : 2 < month) (day : Nat) :
    dayNumber year month day =
      daysBeforeMarch year + (153 * (month - 3) + 2) / 5 + day - 1 - epoch := by
  rw [daysBeforeMarch_eq_era, dayNumber]
  simp only [if_neg (Nat.not_le.mpr late), if_pos late]
  omega

theorem dayNumber_day (year : Int) (month day : Nat) :
    dayNumber year month day = dayNumber year month 1 + (day - 1) := by
  rcases Nat.lt_or_ge 2 month with late | early
  · rw [dayNumber_of_two_lt late, dayNumber_of_two_lt late]
    omega
  · rw [dayNumber_of_le_two early, dayNumber_of_le_two early]
    omega

/-- A month begins when the month before it is over. -/
theorem dayNumber_month (year : Int) {month : Nat} (first : 1 ≤ month) (last : month < 12) :
    dayNumber year (month + 1) 1 = dayNumber year month 1 + daysInMonth year month := by
  rcases Nat.lt_trichotomy month 2 with january | rfl | late
  · obtain rfl : month = 1 := by omega
    rw [dayNumber_of_le_two (by decide), dayNumber_of_le_two (by decide)]
    change _ = _ + ((31 : Nat) : Int)
    omega
  · -- The leap day is counted with the year that begins in March.
    rw [dayNumber_of_two_lt (by decide), dayNumber_of_le_two (by decide), daysBeforeMarch_step]
    omega
  · rw [dayNumber_of_two_lt (by omega), dayNumber_of_two_lt late]
    interval_cases month <;> simp only [daysInMonth] <;> omega

/-- A year begins when December is over. -/
theorem dayNumber_year (year : Int) :
    dayNumber (year + 1) 1 1 = dayNumber year 12 1 + daysInMonth year 12 := by
  rw [dayNumber_of_le_two (by decide), dayNumber_of_two_lt (by decide)]
  change _ = _ + ((31 : Nat) : Int)
  rw [Int.add_sub_cancel]
  omega

theorem dayNumber_months (year : Int) {month later : Nat} (first : 1 ≤ month)
    (less : month < later) (last : later ≤ 12) :
    dayNumber year month 1 + daysInMonth year month ≤ dayNumber year later 1 := by
  induction later, less using Nat.le_induction with
  | base => exact (dayNumber_month year first last).ge
  | succ later less ih =>
    have onward := dayNumber_month year (by omega : 1 ≤ later) last
    have before := ih (by omega)
    omega

theorem dayNumber_years {year later : Int} (le : year ≤ later) :
    dayNumber year 1 1 ≤ dayNumber later 1 1 := by
  rcases Int.lt_or_eq_of_le le with less | rfl
  · rw [dayNumber_of_le_two (by decide), dayNumber_of_le_two (by decide), daysBeforeMarch,
      daysBeforeMarch]
    omega
  · exact Int.le_refl _

namespace Date

def next (date : Date) : Date :=
  if inMonth : date.day < daysInMonth date.year date.month then
    ⟨date.year, date.month, date.day + 1, date.valid.1, date.valid.2.1, by omega, inMonth⟩
  else if inYear : date.month < 12 then
    ⟨date.year, date.month + 1, 1, by omega, inYear, Nat.le_refl 1, daysInMonth_pos _ _⟩
  else ⟨date.year + 1, 1, 1, by decide, by decide, Nat.le_refl 1, daysInMonth_pos _ _⟩

def previous (date : Date) : Date :=
  if inMonth : 1 < date.day then
    ⟨date.year, date.month, date.day - 1, date.valid.1, date.valid.2.1, by omega, by
      have := date.valid.2.2.2
      omega⟩
  else if inYear : 1 < date.month then
    ⟨date.year, date.month - 1, daysInMonth date.year (date.month - 1), by omega, by
      have := date.valid.2.1
      omega, daysInMonth_pos _ _, Nat.le_refl _⟩
  else ⟨date.year - 1, 12, 31, by decide, by decide, by decide, Nat.le_refl 31⟩

theorem next_previous (date : Date) : date.previous.next = date := by
  obtain ⟨year, month, day, first, last, positive, within⟩ := date
  unfold previous
  split
  · rename_i inMonth
    have before : day - 1 < daysInMonth year month := by omega
    rw [next, dif_pos before]
    exact Date.ext rfl rfl (Nat.sub_add_cancel positive)
  · rename_i start
    obtain rfl : day = 1 := by
      change ¬ 1 < day at start
      omega
    split
    · rename_i inYear
      change 1 < month at inYear
      rw [next, dif_neg (Nat.lt_irrefl _), dif_pos (show month - 1 < 12 by omega)]
      exact Date.ext rfl (Nat.sub_add_cancel first) rfl
    · rename_i january
      obtain rfl : month = 1 := by
        change ¬ 1 < month at january
        omega
      exact Date.ext (Int.sub_add_cancel year 1) rfl rfl

theorem number_next (date : Date) : date.next.number = date.number + 1 := by
  obtain ⟨year, month, day, first, last, positive, within⟩ := date
  have counted := dayNumber_day year month day
  unfold next
  split
  · have later := dayNumber_day year month (day + 1)
    change dayNumber year month (day + 1) = dayNumber year month day + 1
    omega
  · rename_i ended
    change ¬ day < daysInMonth year month at ended
    split
    · rename_i inYear
      have onward := dayNumber_month year first inYear
      change dayNumber year (month + 1) 1 = dayNumber year month day + 1
      omega
    · rename_i december
      obtain rfl : month = 12 := by
        change ¬ month < 12 at december
        omega
      have onward := dayNumber_year year
      change dayNumber (year + 1) 1 1 = dayNumber year 12 day + 1
      omega

theorem number_previous (date : Date) : date.previous.number = date.number - 1 := by
  have onward := number_next date.previous
  rw [next_previous] at onward
  omega

theorem number_lt_nextYear (date : Date) : date.number < dayNumber (date.year + 1) 1 1 := by
  obtain ⟨year, month, day, first, last, positive, within⟩ := date
  have counted := dayNumber_day year month day
  have onward := dayNumber_year year
  change dayNumber year month day < dayNumber (year + 1) 1 1
  rcases Nat.lt_or_eq_of_le last with less | rfl
  · have months := dayNumber_months year first less (Nat.le_refl 12)
    omega
  · omega

theorem dayNumber_start_le (date : Date) : dayNumber date.year 1 1 ≤ date.number := by
  obtain ⟨year, month, day, first, last, positive, within⟩ := date
  have counted := dayNumber_day year month day
  change dayNumber year 1 1 ≤ dayNumber year month day
  rcases Nat.lt_or_eq_of_le first with less | rfl
  · have months := dayNumber_months year (Nat.le_refl 1) less last
    omega
  · omega

theorem Before.number_lt {date later : Date} (h : date.Before later) :
    date.number < later.number := by
  rcases h with less | ⟨same, less | ⟨alike, less⟩⟩
  · calc
      date.number < dayNumber (date.year + 1) 1 1 := date.number_lt_nextYear
      _ ≤ dayNumber later.year 1 1 := dayNumber_years less
      _ ≤ later.number := later.dayNumber_start_le
  · have months := dayNumber_months date.year date.valid.1 less later.valid.2.1
    have counted := dayNumber_day date.year date.month date.day
    have counting := dayNumber_day later.year later.month later.day
    have within := date.valid.2.2.2
    have positive := later.valid.2.2.1
    rw [number, number]
    rw [same] at counted months within ⊢
    omega
  · have counted := dayNumber_day date.year date.month date.day
    have counting := dayNumber_day later.year later.month later.day
    rw [number, number]
    rw [same, alike] at counted ⊢
    omega

theorem before_trichotomy (date other : Date) :
    date.Before other ∨ date = other ∨ other.Before date := by
  unfold Before
  rcases Int.lt_trichotomy date.year other.year with less | years | less
  · exact .inl (.inl less)
  · rcases Nat.lt_trichotomy date.month other.month with less | months | less
    · exact .inl (.inr ⟨years, .inl less⟩)
    · rcases Nat.lt_trichotomy date.day other.day with less | days | less
      · exact .inl (.inr ⟨years, .inr ⟨months, less⟩⟩)
      · exact .inr (.inl (Date.ext years months days))
      · exact .inr (.inr (.inr ⟨years.symm, .inr ⟨months.symm, less⟩⟩))
    · exact .inr (.inr (.inr ⟨years.symm, .inl less⟩))
  · exact .inr (.inr (.inl less))

theorem before_iff_number_lt {date later : Date} :
    date.Before later ↔ date.number < later.number := by
  refine ⟨Before.number_lt, ?_⟩
  intro less
  rcases before_trichotomy date later with before | rfl | after
  · exact before
  · exact (Int.lt_irrefl _ less).elim
  · exact (Int.lt_asymm less after.number_lt).elim

theorem number_injective : Function.Injective number := by
  intro date other same
  rcases before_trichotomy date other with before | rfl | after
  · exact (Int.ne_of_lt before.number_lt same).elim
  · rfl
  · exact (Int.ne_of_gt after.number_lt same).elim

theorem exists_number (day : Int) : ∃ date : Date, date.number = day := by
  induction day using Int.induction_on with
  | zero => exact ⟨⟨1970, 1, 1, by decide⟩, by decide⟩
  | succ day ih =>
    obtain ⟨date, same⟩ := ih
    exact ⟨date.next, by rw [number_next, same]⟩
  | pred day ih =>
    obtain ⟨date, same⟩ := ih
    exact ⟨date.previous, by rw [number_previous, same]⟩

end Date

/-- Day numbers count the days from the first of January 1970 on, in the order of the dates, so that
each integer is the number of exactly one date. -/
theorem dayNumber_counts :
    dayNumber 1970 1 1 = 0 ∧ (∀ date : Date, date.next.number = date.number + 1) ∧
      (∀ date later : Date, date.Before later ↔ date.number < later.number) ∧
      Function.Injective Date.number ∧ ∀ day : Int, ∃! date : Date, date.number = day := by
  refine ⟨by decide, Date.number_next, fun _ _ => Date.before_iff_number_lt,
    Date.number_injective, ?_⟩
  intro day
  obtain ⟨date, same⟩ := Date.exists_number day
  exact ⟨date, same, fun other also => Date.number_injective (also.trans same.symm)⟩

/-- A century ends without a leap day. -/
example : (⟨2100, 2, 28, by decide⟩ : Date).next = ⟨2100, 3, 1, by decide⟩ := rfl

end RemoteQuery.Calendar
