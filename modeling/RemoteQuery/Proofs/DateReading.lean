import Mathlib.Logic.Function.Iterate
import RemoteQuery.Proofs.DayCount
import RemoteQuery.Proofs.PrintedNumerals

/-!
# Dates are read exactly

A date is read as three numerals between hyphens that must name a day of the calendar, and is
stored as a number by closed arithmetic. Here the calendar is given by the lengths of its months and
its leap years, and a number by counting the days one after the other; so what is stored is the
count that leads to the date that the text names. Zeros in front of a year change nothing, and a
year has no minus sign, since the first hyphen ends it.
-/
namespace RemoteQuery.Calendar

def monthLengths : List Nat := [31, 28, 31, 30, 31, 30, 31, 31, 30, 31, 30, 31]

/-- Every fourth year, but of the centuries only every fourth. -/
def IsLeap (year : Int) : Prop := (4 ∣ year ∧ ¬ 100 ∣ year) ∨ 400 ∣ year

/-- The days of the Gregorian calendar, extended to all years. -/
inductive IsGregorian (year : Int) : Nat → Nat → Prop
  | day {before day length : Nat} (listed : monthLengths[before]? = some length) (first : 1 ≤ day)
      (last : day ≤ length) : IsGregorian year (before + 1) day
  | leapDay (leap : IsLeap year) : IsGregorian year 2 29

theorem isLeapYear_iff_isLeap {year : Int} : isLeapYear year = true ↔ IsLeap year := by
  rw [isLeapYear_iff]
  unfold IsLeap
  omega

/-- February has a day more in leap years. -/
theorem daysInMonth_listed (year : Int) {before length : Nat}
    (listed : monthLengths[before]? = some length) :
    daysInMonth year (before + 1) =
      if before = 1 ∧ isLeapYear year = true then length + 1 else length := by
  obtain ⟨inside, _⟩ := List.getElem?_eq_some_iff.mp listed
  change before < 12 at inside
  interval_cases before <;> cases listed <;> simp [daysInMonth]

theorem isDate_iff_isGregorian {year : Int} {month day : Nat} :
    IsDate year month day ↔ IsGregorian year month day := by
  constructor
  · rintro ⟨first, last, positive, within⟩
    obtain ⟨before, rfl⟩ : ∃ before, month = before + 1 := ⟨month - 1, by omega⟩
    have inside : before < monthLengths.length := last
    have listed := List.getElem?_eq_getElem inside
    rw [daysInMonth_listed year listed] at within
    split at within
    · rename_i leap
      obtain ⟨rfl, leap⟩ := leap
      change day ≤ 28 + 1 at within
      rcases Nat.lt_or_eq_of_le within with less | rfl
      · exact .day listed positive (Nat.le_of_lt_succ less)
      · exact .leapDay (isLeapYear_iff_isLeap.mp leap)
    · exact .day listed positive within
  · intro gregorian
    cases gregorian with
    | @day before day length listed first last =>
      obtain ⟨inside, _⟩ := List.getElem?_eq_some_iff.mp listed
      change before < 12 at inside
      refine ⟨by omega, by omega, first, ?_⟩
      rw [daysInMonth_listed year listed]
      split <;> omega
    | leapDay leap =>
      have length : daysInMonth year 2 = 29 := if_pos (isLeapYear_iff_isLeap.mpr leap)
      exact ⟨by decide, by decide, by decide, length.ge⟩

namespace Date

/-- The day from which days are counted. -/
def origin : Date := ⟨1970, 1, 1, by decide⟩

/-- The date so many days after the first of January 1970, or before it. -/
def ofNumber : Int → Date
  | .ofNat days => next^[days] origin
  | .negSucc days => previous^[days + 1] origin

theorem number_iterate_next (days : Nat) (date : Date) :
    (next^[days] date).number = date.number + days := by
  induction days with
  | zero => simp
  | succ days ih =>
    rw [Function.iterate_succ_apply', number_next, ih]
    omega

theorem number_iterate_previous (days : Nat) (date : Date) :
    (previous^[days] date).number = date.number - days := by
  induction days with
  | zero => simp
  | succ days ih =>
    rw [Function.iterate_succ_apply', number_previous, ih]
    omega

/-- The closed form of the day number is the count of the days. -/
@[simp] theorem number_ofNumber (number : Int) : (ofNumber number).number = number := by
  have start : origin.number = 0 := by decide
  cases number with
  | ofNat days =>
    rw [ofNumber, number_iterate_next, start]
    simp
  | negSucc days =>
    rw [ofNumber, number_iterate_previous, start]
    omega

@[simp] theorem ofNumber_number (date : Date) : ofNumber date.number = date :=
  number_injective (number_ofNumber date.number)

/-- The last day before the count begins. -/
example : ofNumber (-1) = ⟨1969, 12, 31, by decide⟩ := rfl

/-- The text is the year, the month and the day of the date, as numerals with hyphens between
them. -/
inductive NamedBy (date : Date) : List Char → Prop
  | fields {years months days : List Char} {year : Nat} (yearly : Number.Unsigned years year)
      (same : date.year = year) (bound : year < Nat.pow 2 63)
      (monthly : Number.Unsigned months date.month) (daily : Number.Unsigned days date.day) :
      NamedBy date (years ++ '-' :: (months ++ '-' :: days))

/-- The date with hyphens between its numbers, the year of at least so many digits and month and day
of two. -/
def written (width : Nat) (date : Date) : List Char :=
  Number.padded width date.year.toNat ++
    '-' :: (Number.padded 2 date.month ++ '-' :: Number.padded 2 date.day)

theorem namedBy_written (width : Nat) {date : Date} (since : 0 ≤ date.year)
    (bound : date.year < Nat.pow 2 63) : date.NamedBy (date.written width) := by
  have same : date.year = date.year.toNat := (Int.toNat_of_nonneg since).symm
  apply NamedBy.fields (Number.unsigned_padded _ _) same
  · omega
  · exact Number.unsigned_padded _ _
  · exact Number.unsigned_padded _ _

theorem isNumeral_written (width : Nat) (date : Date) :
    ∀ c ∈ date.written width, Number.IsNumeral c := by
  have digit (width n : Nat) (c : Char) (member : c ∈ Number.padded width n) :
      Number.IsNumeral c := .inl ((Number.padded_digits width n).2.1 c member)
  intro c member
  simp only [written, List.mem_append, List.mem_cons] at member
  rcases member with member | rfl | member | rfl | member
  · exact digit _ _ c member
  · exact .inr (.inl rfl)
  · exact digit _ _ c member
  · exact .inr (.inl rfl)
  · exact digit _ _ c member

end Date

theorem ne_hyphen {text : List Char} {value : Nat} (h : Number.Unsigned text value) :
    ∀ c ∈ text, c ≠ '-' := by
  intro c member
  rcases h.digit_or_plus c member with digit | rfl
  · exact Number.not_isDigit digit (by decide)
  · decide

/-- Month and day of a date are small enough for any numeral. -/
theorem IsDate.small {year : Int} {month day : Nat} (h : IsDate year month day) :
    month < Nat.pow 2 32 ∧ day < Nat.pow 2 32 := by
  obtain ⟨first, last, positive, within⟩ := h
  have length : daysInMonth year month ≤ 31 := by
    unfold daysInMonth
    split
    · split <;> decide
    all_goals decide
  exact ⟨by change month < 4294967296; omega, by change day < 4294967296; omega⟩

theorem readDate?_of_namedBy {date : Date} {text : List Char} (h : date.NamedBy text) :
    readDate? text = some date.number := by
  cases h with
  | @fields years months days year yearly same bound monthly daily =>
    have within : Number.InSignedRange 64 year := Number.inSignedRange_natCast.mpr bound
    have yearRead : Number.signed? 64 years = some date.year := by
      rw [same]
      exact (Number.signed?_eq_some_iff_unsigned (ne_hyphen yearly)).mpr
        ⟨year, yearly, rfl, within⟩
    have monthRead : Number.unsigned? 32 months = some date.month :=
      Number.unsigned?_eq_some_iff.mpr ⟨monthly, date.valid.small.1⟩
    have dayRead : Number.unsigned? 32 days = some date.day :=
      Number.unsigned?_eq_some_iff.mpr ⟨daily, date.valid.small.2⟩
    simp only [readDate?, readFields?, Text.cut?_append (ne_hyphen yearly),
      Text.cut?_append (ne_hyphen monthly), yearRead, monthRead, dayRead, Option.bind_eq_bind,
      Option.bind_some, Option.pure_def]
    exact if_pos date.valid

/-- A year that 64 bits do not hold is no numeral, and so the text is no date. -/
theorem readDate?_written_of_le (width : Nat) {date : Date} (far : Nat.pow 2 63 ≤ date.year) :
    readDate? (date.written width) = none := by
  have plain (width n : Nat) := ne_hyphen (Number.unsigned_padded width n)
  have outside : ¬ Number.InSignedRange 64 date.year.toNat := by
    intro within
    have less : date.year.toNat < Nat.pow 2 63 := Number.inSignedRange_natCast.mp within
    omega
  simp only [readDate?, readFields?, Date.written, Text.cut?_append (plain _ _),
    Number.signed?_padded, if_neg outside, Option.bind_eq_bind, Option.bind_some, Option.bind_none]

theorem exists_namedBy {text : List Char} {number : Int} (h : readDate? text = some number) :
    ∃ date : Date, date.NamedBy text ∧ date.number = number := by
  obtain ⟨⟨year, month, day⟩, fields, found⟩ := Option.bind_eq_some_iff.mp h
  simp only at found
  split at found
  · rename_i valid
    cases found
    obtain ⟨⟨years, rest⟩, cut, fields⟩ := Option.bind_eq_some_iff.mp fields
    obtain ⟨⟨months, days⟩, again, fields⟩ := Option.bind_eq_some_iff.mp fields
    obtain ⟨_, yearRead, fields⟩ := Option.bind_eq_some_iff.mp fields
    obtain ⟨_, monthRead, fields⟩ := Option.bind_eq_some_iff.mp fields
    obtain ⟨_, dayRead, fields⟩ := Option.bind_eq_some_iff.mp fields
    cases fields
    obtain ⟨plain, hyphen, isHyphen, rfl⟩ := Text.cut?_eq_some_iff.mp cut
    obtain ⟨_, other, isOther, rfl⟩ := Text.cut?_eq_some_iff.mp again
    rw [beq_iff_eq.mp isHyphen, beq_iff_eq.mp isOther]
    have plain : ∀ c ∈ years, c ≠ '-' := fun c member => ne_of_beq_false (plain c member)
    obtain ⟨value, yearly, rfl, within⟩ :=
      (Number.signed?_eq_some_iff_unsigned plain).mp yearRead
    refine ⟨⟨value, month, day, valid⟩, .fields yearly rfl ?_ ?_ ?_, rfl⟩
    · exact Number.inSignedRange_natCast.mp within
    · exact (Number.unsigned?_eq_some_iff.mp monthRead).1
    · exact (Number.unsigned?_eq_some_iff.mp dayRead).1
  · cases found

theorem readDate?_eq_some_iff {text : List Char} {number : Int} :
    readDate? text = some number ↔ (Date.ofNumber number).NamedBy text := by
  constructor
  · intro read
    obtain ⟨date, named, rfl⟩ := exists_namedBy read
    rwa [Date.ofNumber_number]
  · intro named
    rw [readDate?_of_namedBy named, Date.number_ofNumber]

theorem readDate?_eq_none_iff {text : List Char} :
    readDate? text = none ↔ ∀ date : Date, ¬ date.NamedBy text := by
  constructor
  · intro failed date named
    rw [readDate?_of_namedBy named] at failed
    cases failed
  · intro unnamed
    cases read : readDate? text with
    | none => rfl
    | some number =>
      obtain ⟨date, named, _⟩ := exists_namedBy read
      exact (unnamed date named).elim

end RemoteQuery.Calendar
