import RemoteQuery.Proofs.ClockReading
import RemoteQuery.Proofs.ColumnReading

/-!
# Timestamps and the days they lie in

A timestamp is read as a date, a clock reading and a fraction of a second. The parts of the clock
reading are signed numerals, and only too large ones are refused; so a timestamp always lies before
the end of its day, but it lies before the day begins just when the clock reading is negative.
-/
namespace RemoteQuery.Calendar

structure TimeOfDay where
  hours : Int
  minutes : Int
  seconds : Int
  micros : Int

namespace TimeOfDay

def wholeSeconds (time : TimeOfDay) : Int :=
  time.hours * 3600 + time.minutes * 60 + time.seconds

/-- No part is larger than a clock shows. -/
def Bounded (time : TimeOfDay) : Prop :=
  time.hours ≤ 23 ∧ time.minutes ≤ 59 ∧ time.seconds ≤ 59

end TimeOfDay

/-- The microseconds from the epoch to a time of a day. -/
def instant (day : Int) (time : TimeOfDay) : Int :=
  (day * secondsPerDay + time.wholeSeconds) * microsPerSecond + time.micros

/-- A text names a day and a time of it. -/
inductive Names : List Char → Int → TimeOfDay → Prop
  | date {date : List Char} {day : Int} (dated : readDate? date = some day) :
      Names date day ⟨0, 0, 0, 0⟩
  | timed {date clock fraction : List Char} {separator : Char} {day h m s micros : Int}
      (dated : readDate? date = some day) (separates : separator = ' ' ∨ separator = 'T')
      (clocked : Clock clock h m s) (divided : Fraction fraction micros) :
      Names (date ++ separator :: (clock ++ fraction)) day ⟨h, m, s, micros⟩

theorem not_separator_of_isNumeral {c : Char} (numeral : Number.IsNumeral c) :
    (c == ' ' || c == 'T') = false := by
  rw [beq_false_of_ne (Number.not_isNumeral numeral (by decide)),
    beq_false_of_ne (Number.not_isNumeral numeral (by decide))]
  rfl

theorem separator_not_mem {date : List Char} {day : Int} (h : readDate? date = some day) :
    ∀ c ∈ date, (c == ' ' || c == 'T') = false := by
  obtain ⟨⟨year, month, day⟩, fields, _⟩ := Option.bind_eq_some_iff.mp h
  obtain ⟨⟨years, rest⟩, cut, fields⟩ := Option.bind_eq_some_iff.mp fields
  obtain ⟨⟨months, days⟩, again, fields⟩ := Option.bind_eq_some_iff.mp fields
  obtain ⟨_, yearRead, fields⟩ := Option.bind_eq_some_iff.mp fields
  obtain ⟨_, monthRead, fields⟩ := Option.bind_eq_some_iff.mp fields
  obtain ⟨_, dayRead, _⟩ := Option.bind_eq_some_iff.mp fields
  obtain ⟨_, hyphen, isHyphen, rfl⟩ := Text.cut?_eq_some_iff.mp cut
  obtain ⟨_, other, isOther, rfl⟩ := Text.cut?_eq_some_iff.mp again
  rw [beq_iff_eq.mp isHyphen, beq_iff_eq.mp isOther]
  intro c member
  simp only [List.mem_append, List.mem_cons] at member
  rcases member with member | rfl | member | rfl | member
  · exact not_separator_of_isNumeral (Number.isNumeral_of_signed? yearRead c member)
  · decide
  · exact not_separator_of_isNumeral (Number.isNumeral_of_unsigned? monthRead c member)
  · decide
  · exact not_separator_of_isNumeral (Number.isNumeral_of_unsigned? dayRead c member)

/-- A text that names a day and a time of it is refused for a part that is too large, and for a
number of microseconds that 64 bits do not hold. -/
theorem readTimestamp?_of_names {text : List Char} {day : Int} {time : TimeOfDay}
    (h : Names text day time) :
    readTimestamp? text =
      if 23 < time.hours ∨ 59 < time.minutes ∨ 59 < time.seconds then none
      else (within64? ((day * secondsPerDay + time.wholeSeconds) * microsPerSecond)).bind
        fun whole => within64? (whole + time.micros) := by
  cases h with
  | date dated =>
    have whole := Text.cut?_eq_none_iff.mpr (separator_not_mem dated)
    have point : Text.cut? (· == '.') "00:00:00".toList = none := by decide
    have clock : readClock? "00:00:00".toList = some 0 := by decide
    have fraction : readFraction? [] = some 0 := by decide
    simp only [readTimestamp?, splitTimestamp, whole, Option.getD_none, dated, point, clock,
      fraction, Option.bind_eq_bind, Option.bind_some]
    rfl
  | @timed date _ _ separator _ h m s _ dated separates clocked divided =>
    have cut (time : List Char) : Text.cut? (fun c => c == ' ' || c == 'T')
        (date ++ separator :: time) = some (date, time) := by
      refine Text.cut?_eq_some_iff.mpr ⟨separator_not_mem dated, separator, ?_, rfl⟩
      rcases separates with rfl | rfl <;> decide
    obtain ⟨digits, parts, fraction⟩ := divided.parts clocked
    simp only [readTimestamp?, splitTimestamp, cut, Option.getD_some, dated, parts,
      readClock?_of_clock clocked, Option.bind_eq_bind, Option.bind_some]
    by_cases large : 23 < h ∨ 59 < m ∨ 59 < s
    · rw [if_pos large, if_pos large, Option.bind_none]
    · rw [if_neg large, if_neg large, Option.bind_some, fraction, Option.bind_some]
      rfl

theorem exists_names {text : List Char} {micros : Int} (h : readTimestamp? text = some micros) :
    ∃ day time, Names text day time := by
  unfold readTimestamp? splitTimestamp at h
  cases cut : Text.cut? (fun c => c == ' ' || c == 'T') text with
  | none =>
    simp only [cut, Option.getD_none] at h
    obtain ⟨day, dated, _⟩ := Option.bind_eq_some_iff.mp h
    exact ⟨day, _, .date dated⟩
  | some pair =>
    obtain ⟨date, time⟩ := pair
    simp only [cut, Option.getD_some] at h
    obtain ⟨day, dated, h⟩ := Option.bind_eq_some_iff.mp h
    obtain ⟨_, separator, separates, rfl⟩ := Text.cut?_eq_some_iff.mp cut
    rw [Bool.or_eq_true, beq_iff_eq, beq_iff_eq] at separates
    cases point : Text.cut? (· == '.') time with
    | none =>
      simp only [point, Option.getD_none] at h
      obtain ⟨_, clock, _⟩ := Option.bind_eq_some_iff.mp h
      obtain ⟨_, _, _, clocked⟩ := exists_clock clock
      rw [← List.append_nil time]
      exact ⟨day, _, .timed dated separates clocked .none⟩
    | some pair =>
      obtain ⟨clock, digits⟩ := pair
      simp only [point, Option.getD_some] at h
      obtain ⟨_, read, h⟩ := Option.bind_eq_some_iff.mp h
      obtain ⟨_, fraction, _⟩ := Option.bind_eq_some_iff.mp h
      obtain ⟨_, _, _, clocked⟩ := exists_clock read
      obtain ⟨all, short⟩ := digits_of_readFraction? fraction
      obtain ⟨_, point, isPoint, rfl⟩ := Text.cut?_eq_some_iff.mp point
      rw [beq_iff_eq.mp isPoint]
      exact ⟨day, _, .timed dated separates clocked (.digits all short)⟩

/-- A text stands for an instant that 64 bits hold, as they must hold its whole second. -/
structure Denotes (text : List Char) (day : Int) (time : TimeOfDay) : Prop where
  names : Names text day time
  bounded : time.Bounded
  second : Number.InSignedRange 64 ((day * secondsPerDay + time.wholeSeconds) * microsPerSecond)
  within : Number.InSignedRange 64 (instant day time)

theorem within64?_eq_some_iff {value result : Int} :
    within64? value = some result ↔ Number.InSignedRange 64 value ∧ value = result := by
  unfold within64?
  split
  · rename_i within
    simp only [within, true_and, Option.some.injEq]
  · rename_i outside
    simp only [outside, false_and, reduceCtorEq]

theorem readTimestamp?_eq_some_iff {text : List Char} {micros : Int} :
    readTimestamp? text = some micros ↔
      ∃ day time, Denotes text day time ∧ micros = instant day time := by
  constructor
  · intro read
    obtain ⟨day, time, named⟩ := exists_names read
    rw [readTimestamp?_of_names named] at read
    split at read
    · cases read
    · rename_i small
      obtain ⟨whole, fits, rest⟩ := Option.bind_eq_some_iff.mp read
      obtain ⟨second, rfl⟩ := within64?_eq_some_iff.mp fits
      obtain ⟨within, rfl⟩ := within64?_eq_some_iff.mp rest
      have bounded : time.Bounded := by
        unfold TimeOfDay.Bounded
        omega
      exact ⟨day, time, ⟨named, bounded, second, within⟩, rfl⟩
  · rintro ⟨day, time, denotes, rfl⟩
    obtain ⟨hours, minutes, seconds⟩ := denotes.bounded
    rw [readTimestamp?_of_names denotes.names, if_neg (by omega),
      within64?_eq_some_iff.mpr ⟨denotes.second, rfl⟩, Option.bind_some]
    exact within64?_eq_some_iff.mpr ⟨denotes.within, rfl⟩

theorem readTimestamp?_of_not_bounded {text : List Char} {day : Int} {time : TimeOfDay}
    (h : Names text day time) (large : ¬ time.Bounded) : readTimestamp? text = none := by
  unfold TimeOfDay.Bounded at large
  rw [readTimestamp?_of_names h, if_pos (by omega)]

theorem Names.micros_bounds {text : List Char} {day : Int} {time : TimeOfDay}
    (h : Names text day time) : 0 ≤ time.micros ∧ time.micros < microsPerSecond := by
  cases h with
  | date dated => decide
  | timed dated separates clocked divided => exact divided.bounds

/-- The last second of a day that a clock shows ends the day. -/
theorem Denotes.instant_lt {text : List Char} {day : Int} {time : TimeOfDay}
    (h : Denotes text day time) :
    instant day time < (day + 1) * secondsPerDay * microsPerSecond := by
  obtain ⟨hours, minutes, seconds⟩ := h.bounded
  have micros := h.names.micros_bounds
  unfold instant TimeOfDay.wholeSeconds secondsPerDay microsPerSecond at *
  omega

theorem Denotes.le_instant_iff {text : List Char} {day : Int} {time : TimeOfDay}
    (h : Denotes text day time) :
    day * secondsPerDay * microsPerSecond ≤ instant day time ↔ 0 ≤ time.wholeSeconds := by
  have micros := h.names.micros_bounds
  unfold instant secondsPerDay microsPerSecond at *
  omega

end RemoteQuery.Calendar

namespace RemoteQuery.Columnar

open Calendar (Names Denotes instant readTimestamp? secondsPerDay microsPerSecond)

def HoldsTimestamp : Option String → Option Value → Prop :=
  HoldsInteger fun text micros =>
    ∃ day time, Denotes (Text.trim text.toList) day time ∧ micros = instant day time

theorem readCell_timestamp_eq_ok_iff (text : String) (value : Value) :
    readCell .timestamp text = .ok value ↔
      ∃ micros, (∃ day time, Denotes (Text.trim text.toList) day time ∧
        micros = instant day time) ∧ value = .integer micros := by
  rw [readCell]
  constructor
  · intro read
    cases found : readTimestamp? (Text.trim text.toList) with
    | none =>
      rw [found] at read
      cases read
    | some micros =>
      rw [found] at read
      cases read
      exact ⟨micros, Calendar.readTimestamp?_eq_some_iff.mp found, rfl⟩
  · rintro ⟨micros, denoted, rfl⟩
    rw [Calendar.readTimestamp?_eq_some_iff.mpr denoted]

/-- A column of timestamps is built just when each text in it stands for an instant. What is stored
lies before the end of the day that the text names, and a text with a too large hour, minute or
second is refused; but only a clock reading that is not negative keeps the instant from lying before
its day. -/
theorem timestamp_column_days (cells : List (Option String)) (column : String) :
    (∀ array, buildArray .timestamp cells column = .ok array ↔
      array.type = .timestampMicros ∧ List.Forall₂ HoldsTimestamp cells array.values) ∧
    (∀ text day time, Names text day time → ¬ time.Bounded → readTimestamp? text = none) ∧
    ∀ text day time, Denotes text day time →
      instant day time < (day + 1) * secondsPerDay * microsPerSecond ∧
        (day * secondsPerDay * microsPerSecond ≤ instant day time ↔ 0 ≤ time.wholeSeconds) := by
  refine ⟨?_, fun _ _ _ => Calendar.readTimestamp?_of_not_bounded, ?_⟩
  · intro array
    exact buildArray_integers_eq_ok_iff rfl readCell_timestamp_eq_ok_iff
  · intro text day time denotes
    exact ⟨denotes.instant_lt, denotes.le_instant_iff⟩

/-- A clock reading of minus one hour is taken, and the instant lies in the day before. -/
theorem not_timestamps_within_their_days :
    ¬ ∀ cells column array, buildArray .timestamp cells column = .ok array →
      ∀ (row : Nat) text micros day time, cells[row]? = some (some text) →
        array.values[row]? = some (some (.integer micros)) →
        Names (Text.trim text.toList) day time →
        day * secondsPerDay * microsPerSecond ≤ micros ∧
          micros < (day + 1) * secondsPerDay * microsPerSecond := by
  intro within
  have built : buildArray .timestamp [some "1970-01-01 -1:00"] "c" =
      .ok ⟨.timestampMicros, [some (.integer (-3600000000))]⟩ := by rfl
  have named : Names (Text.trim "1970-01-01 -1:00".toList) 0 ⟨-1, 0, 0, 0⟩ :=
    .timed (by decide : Calendar.readDate? "1970-01-01".toList = some 0) (.inl rfl)
      (.short (by decide : Number.signed? 64 "-1".toList = some (-1))
        (by decide : Number.signed? 64 "00".toList = some 0)) .none
  obtain ⟨least, _⟩ := within _ _ _ built 0 _ _ _ _ rfl rfl named
  exact absurd least (by decide)

end RemoteQuery.Columnar
