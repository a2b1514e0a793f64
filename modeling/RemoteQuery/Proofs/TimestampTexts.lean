import RemoteQuery.Proofs.DateReading
import RemoteQuery.Proofs.TimestampReading

/-!
# Texts of timestamps

A moment is written as a date and a clock reading of two digits each, with a fraction of a second or
without. What is read from such a text is the instant that it names, if 64 bits hold it. The whole
second is bounded before the fraction is added; before the epoch this would refuse instants of the
very first second that 64 bits can hold, but that second lies in a year that has no text.
-/
namespace RemoteQuery.Calendar

open Number (padded)

def microsPerDay : Int := secondsPerDay * microsPerSecond

/-- A time as a clock shows it, in two digits each. On a full minute the seconds may be left out. -/
inductive Shows : List Char → Nat → Nat → Nat → Prop
  | full {hour minute second : Nat} (hours : hour < 24) (minutes : minute < 60)
      (seconds : second < 60) :
      Shows (padded 2 hour ++ ':' :: (padded 2 minute ++ ':' :: padded 2 second)) hour minute second
  | short {hour minute : Nat} (hours : hour < 24) (minutes : minute < 60) :
      Shows (padded 2 hour ++ ':' :: padded 2 minute) hour minute 0

/-- The ways to write a time of a date; a date alone is its midnight. -/
inductive Stamp (date : Date) : TimeOfDay → List Char → Prop
  | midnight (zeros : Nat) : Stamp date ⟨0, 0, 0, 0⟩ (date.written (4 + zeros))
  | timed (zeros : Nat) {separator : Char} {clock fraction : List Char} {hour minute second : Nat}
      {micros : Int} (separates : separator = ' ' ∨ separator = 'T')
      (shown : Shows clock hour minute second) (divided : Fraction fraction micros) :
      Stamp date ⟨hour, minute, second, micros⟩
        (date.written (4 + zeros) ++ separator :: (clock ++ fraction))

theorem signed?_twoDigits {n : Nat} (small : n < 60) :
    Number.signed? 64 (padded 2 n) = some (n : Int) := by
  rw [Number.signed?_padded, if_pos]
  apply Number.inSignedRange_natCast.mpr
  exact small.trans (by decide)

theorem Shows.clock {text : List Char} {hour minute second : Nat}
    (h : Shows text hour minute second) : Clock text hour minute second := by
  cases h with
  | full hours minutes seconds =>
    apply Clock.full
    · exact signed?_twoDigits (by omega)
    · exact signed?_twoDigits minutes
    · exact signed?_twoDigits seconds
  | short hours minutes =>
    apply Clock.short
    · exact signed?_twoDigits (by omega)
    · exact signed?_twoDigits minutes

theorem Shows.bounds {text : List Char} {hour minute second : Nat}
    (h : Shows text hour minute second) : hour < 24 ∧ minute < 60 ∧ second < 60 := by
  cases h with
  | full hours minutes seconds => exact ⟨hours, minutes, seconds⟩
  | short hours minutes => exact ⟨hours, minutes, by decide⟩

theorem isBlank_padded {width n : Nat} : ∀ c ∈ padded width n, Text.isBlank c = false :=
  fun c member => Number.isBlank_of_isNumeral (.inl ((Number.padded_digits width n).2.1 c member))

theorem Shows.solid {text : List Char} {hour minute second : Nat}
    (h : Shows text hour minute second) : text ≠ [] ∧ ∀ c ∈ text, Text.isBlank c = false := by
  cases h with
  | full =>
    refine ⟨by simp, List.forall_mem_append.mpr ⟨isBlank_padded, ?_⟩⟩
    refine List.forall_mem_cons.mpr ⟨by decide, List.forall_mem_append.mpr ⟨isBlank_padded, ?_⟩⟩
    exact List.forall_mem_cons.mpr ⟨by decide, isBlank_padded⟩
  | short =>
    refine ⟨by simp, List.forall_mem_append.mpr ⟨isBlank_padded, ?_⟩⟩
    exact List.forall_mem_cons.mpr ⟨by decide, isBlank_padded⟩

theorem Fraction.solid {text : List Char} {micros : Int} (h : Fraction text micros) :
    ∀ c ∈ text, Text.isBlank c = false := by
  cases h with
  | none => nofun
  | digits all short =>
    refine List.forall_mem_cons.mpr ⟨by decide, ?_⟩
    exact fun c member => Number.isBlank_of_isNumeral (.inl (all c member))

section Stamps

variable {date : Date} {time : TimeOfDay} {text : List Char}

namespace Stamp

/-- A time lies in its day. -/
theorem bounds (h : Stamp date time text) :
    time.Bounded ∧ 0 ≤ time.wholeSeconds ∧ time.wholeSeconds < secondsPerDay ∧
      0 ≤ time.micros ∧ time.micros < microsPerSecond := by
  unfold TimeOfDay.Bounded TimeOfDay.wholeSeconds secondsPerDay
  cases h with
  | midnight => decide
  | timed zeros separates shown divided =>
    obtain ⟨hours, minutes, seconds⟩ := shown.bounds
    have parts := divided.bounds
    simp only
    omega

theorem names (h : Stamp date time text) (since : 0 ≤ date.year)
    (bound : date.year < Nat.pow 2 63) : Names text date.number time := by
  have dated (zeros : Nat) : readDate? (date.written (4 + zeros)) = some date.number :=
    readDate?_of_namedBy (Date.namedBy_written _ since bound)
  cases h with
  | midnight zeros => exact .date (dated zeros)
  | timed zeros separates shown divided => exact .timed (dated zeros) separates shown.clock divided

theorem readTimestamp?_of_far (h : Stamp date time text) (far : Nat.pow 2 63 ≤ date.year) :
    readTimestamp? text = none := by
  have apart (width : Nat) : ∀ c ∈ date.written width, (c == ' ' || c == 'T') = false :=
    fun c member => not_separator_of_isNumeral (Date.isNumeral_written width date c member)
  have undated (width : Nat) := readDate?_written_of_le width far
  cases h with
  | midnight zeros =>
    simp only [readTimestamp?, splitTimestamp, Text.cut?_eq_none_iff.mpr (apart _),
      Option.getD_none, undated, Option.bind_eq_bind, Option.bind_none]
  | @timed zeros separator clock fraction _ _ _ _ separates _ _ =>
    have cut : Text.cut? (fun c => c == ' ' || c == 'T')
        (date.written (4 + zeros) ++ separator :: (clock ++ fraction)) =
          some (date.written (4 + zeros), clock ++ fraction) := by
      refine Text.cut?_eq_some_iff.mpr ⟨apart _, separator, ?_, rfl⟩
      rcases separates with rfl | rfl <;> decide
    simp only [readTimestamp?, splitTimestamp, cut, Option.getD_some, undated, Option.bind_eq_bind,
      Option.bind_none]

theorem hasSolidEnds (h : Stamp date time text) : Text.HasSolidEnds text := by
  have solid (width : Nat) : ∀ c ∈ date.written width, Text.isBlank c = false :=
    fun c member => Number.isBlank_of_isNumeral (Date.isNumeral_written width date c member)
  cases h with
  | midnight zeros => exact Text.hasSolidEnds_of_solid (solid _)
  | @timed zeros separator clock fraction _ _ _ _ _ shown divided =>
    rw [← List.singleton_append, ← List.append_assoc]
    apply Text.hasSolidEnds_append
    · simp [Date.written]
    · exact solid _
    · simp [shown.solid.1]
    · exact List.forall_mem_append.mpr ⟨shown.solid.2, divided.solid⟩

end Stamp

/-- Year zero is the first that has a text, and it begins within 64 bits. -/
theorem Date.number_ge (since : 0 ≤ date.year) : -719528 ≤ date.number := by
  have start := date.dayNumber_start_le
  have years := dayNumber_years since
  have zero : dayNumber 0 1 1 = -719528 := by decide
  omega

theorem Date.number_gt_of_far (far : Nat.pow 2 63 ≤ date.year) :
    9223372036854775807 < date.number := by
  have start := date.dayNumber_start_le
  rw [dayNumber_of_le_two (by decide), daysBeforeMarch, epoch] at start
  change 9223372036854775808 ≤ date.year at far
  omega

theorem within64?_eq (value : Int) :
    within64? value =
      if -9223372036854775808 ≤ value ∧ value < 9223372036854775808 then some value else none := rfl

/-- A text that writes a time of a date is read as the instant, and is refused if 64 bits do not
hold the instant. -/
theorem Stamp.readTimestamp? (h : Stamp date time text) (since : 0 ≤ date.year) :
    readTimestamp? text = within64? (instant date.number time) := by
  obtain ⟨bounded, least, most, none, less⟩ := h.bounds
  have early := Date.number_ge since
  unfold secondsPerDay microsPerSecond at *
  rcases Int.lt_or_le date.year (Nat.pow 2 63) with bound | far
  · have small : ¬ (23 < time.hours ∨ 59 < time.minutes ∨ 59 < time.seconds) := by
      unfold TimeOfDay.Bounded at bounded
      omega
    rw [readTimestamp?_of_names (h.names since bound), if_neg small]
    unfold instant secondsPerDay microsPerSecond
    rw [within64?_eq, within64?_eq]
    split
    · rw [Option.bind_some, within64?_eq]
    · rw [Option.bind_none, if_neg]
      omega
  · have late := Date.number_gt_of_far far
    rw [h.readTimestamp?_of_far far, within64?_eq, if_neg]
    unfold instant secondsPerDay microsPerSecond
    omega

end Stamps

/-- The date and the clock reading of an instant, with six digits of fraction. -/
def writtenInstant (separator : Char) (micros : Int) : List Char :=
  let rest := (micros % microsPerDay).toNat
  let second := rest / 1000000
  (Date.ofNumber (micros / microsPerDay)).written 4 ++ separator ::
    ((padded 2 (second / 3600) ++
        ':' :: (padded 2 (second / 60 % 60) ++ ':' :: padded 2 (second % 60))) ++
      '.' :: padded 6 (rest % 1000000))

example : writtenInstant 'T' (-1) = "1969-12-31T23:59:59.999999".toList := by decide

theorem fraction_padded {micros : Nat} (small : micros < 1000000) :
    Fraction ('.' :: padded 6 micros) micros := by
  obtain ⟨_, all, value⟩ := Number.padded_digits 6 micros
  have length : (padded 6 micros).length = 6 := Number.length_padded (by decide) small
  have fraction := Fraction.digits all (by omega)
  rwa [length, value, Nat.mul_div_cancel _ (by decide)] at fraction

theorem stamp_writtenInstant {separator : Char} (separates : separator = ' ' ∨ separator = 'T')
    (micros : Int) :
    ∃ time, Stamp (Date.ofNumber (micros / microsPerDay)) time (writtenInstant separator micros) ∧
      instant (micros / microsPerDay) time = micros := by
  have day : microsPerDay = 86400000000 := by decide
  have whole := Int.mul_ediv_add_emod micros 86400000000
  unfold writtenInstant
  rw [day]
  refine ⟨_, .timed 0 separates (.full ?_ ?_ ?_) (fraction_padded ?_), ?_⟩
  · omega
  · omega
  · omega
  · omega
  · unfold instant TimeOfDay.wholeSeconds secondsPerDay microsPerSecond
    simp only
    omega

end RemoteQuery.Calendar
