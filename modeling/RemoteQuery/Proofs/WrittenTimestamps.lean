import RemoteQuery.Proofs.DateColumns
import RemoteQuery.Proofs.TimestampTexts

/-!
# Written timestamps are read back

A column of written timestamps holds the instants that they name, NULL aside; where 64 bits do not
hold one of them, the first such text is to blame.
-/
namespace RemoteQuery.Columnar

open Calendar (Date Stamp instant readTimestamp? writtenInstant microsPerDay)

/-- A cell with a written timestamp among blanks, and the instant that it names. -/
inductive WrittenTimestamp : Option String → Option Int → Prop
  | null : WrittenTimestamp none none
  | text {date : Date} {time : Calendar.TimeOfDay} {before text after : List Char}
      (since : 0 ≤ date.year) (stamp : Stamp date time text)
      (start : ∀ c ∈ before, Text.isBlank c = true)
      (finish : ∀ c ∈ after, Text.isBlank c = true) :
      WrittenTimestamp (some (String.ofList (before ++ text ++ after)))
        (some (instant date.number time))

theorem WrittenTimestamp.readCell {text : String} {micros : Int}
    (h : WrittenTimestamp (some text) (some micros)) :
    readCell .timestamp text =
      if Number.InSignedRange 64 micros then .ok (.integer micros)
      else .error (.timestamp text) := by
  cases h with
  | @text date time _ _ _ since stamp start finish =>
    rw [Columnar.readCell, String.toList_ofList, stamp.hasSolidEnds.trim_padded start finish,
      stamp.readTimestamp? since, Calendar.within64?]
    by_cases within : Number.InSignedRange 64 (instant date.number time)
    · simp only [if_pos within]
    · simp only [if_neg within]

section Written

variable {cells : List (Option String)} {instants : List (Option Int)}
  (written : List.Forall₂ WrittenTimestamp cells instants)
include written

theorem forall₂_reads (within : ∀ micros, some micros ∈ instants → Number.InSignedRange 64 micros) :
    List.Forall₂ (Reads .timestamp) cells (instants.map (Option.map .integer)) := by
  induction written with
  | nil => exact .nil
  | cons head _ ih =>
    refine .cons ?_ (ih fun value member => within value (List.mem_cons_of_mem _ member))
    cases head with
    | null => trivial
    | text since stamp start finish =>
      have read := WrittenTimestamp.readCell (.text since stamp start finish)
      rwa [if_pos (within _ List.mem_cons_self)] at read

theorem written_at {row : Nat} {text : String} (here : cells[row]? = some (some text)) :
    ∃ micros, instants[row]? = some (some micros) ∧ WrittenTimestamp (some text) (some micros) := by
  obtain ⟨inside, same⟩ := List.getElem?_eq_some_iff.mp here
  have within : row < instants.length := written.length_eq ▸ inside
  have held := written.get inside within
  simp only [List.get_eq_getElem, same] at held
  rw [List.getElem?_eq_getElem within]
  cases named : instants[row] with
  | none =>
    rw [named] at held
    cases held
  | some micros =>
    rw [named] at held
    exact ⟨micros, rfl, held⟩

theorem firstUnreadable_of_far {row : Nat} {text : String} {micros : Int}
    (here : cells[row]? = some (some text)) (named : instants[row]? = some (some micros))
    (far : ¬ Number.InSignedRange 64 micros)
    (first : ∀ earlier < row, ∀ micros, instants[earlier]? = some (some micros) →
      Number.InSignedRange 64 micros) :
    FirstUnreadable .timestamp cells row (.timestamp text) := by
  constructor
  · obtain ⟨_, also, held⟩ := written_at written here
    cases named.symm.trans also
    exact ⟨text, here, by rw [held.readCell, if_neg far]⟩
  · rintro earlier less fault ⟨other, listed, failed⟩
    obtain ⟨value, found, held⟩ := written_at written listed
    rw [held.readCell, if_pos (first earlier less value found)] at failed
    cases failed

end Written

/-- A written timestamp of a year that is not negative is read as the instant that it names, if 64
bits hold the instant, and is refused otherwise; so it is in a column, where blanks may stand around
it and the first instant that is too large is to blame. Each instant of such a year is read back
from its text, before the epoch and after it. -/
theorem written_timestamps_read (column : String) :
    (∀ date time text, 0 ≤ date.year → Stamp date time text →
      readTimestamp? text =
        if Number.InSignedRange 64 (instant date.number time) then some (instant date.number time)
        else none) ∧
    (∀ cells instants, List.Forall₂ WrittenTimestamp cells instants →
      ((∀ micros, some micros ∈ instants → Number.InSignedRange 64 micros) →
        buildArray .timestamp cells column =
          .ok ⟨.timestampMicros, instants.map (Option.map .integer)⟩) ∧
      ∀ (row : Nat) text micros, cells[row]? = some (some text) →
        instants[row]? = some (some micros) → ¬ Number.InSignedRange 64 micros →
        (∀ earlier < row, ∀ micros, instants[earlier]? = some (some micros) →
          Number.InSignedRange 64 micros) →
        buildArray .timestamp cells column =
          .error (.conversion row column ("Invalid timestamp: " ++ text))) ∧
    ∀ separator micros, separator = ' ' ∨ separator = 'T' → Number.InSignedRange 64 micros →
      0 ≤ (Date.ofNumber (micros / microsPerDay)).year →
      readTimestamp? (writtenInstant separator micros) = some micros := by
  refine ⟨?_, ?_, ?_⟩
  · intro date time text since stamp
    exact stamp.readTimestamp? since
  · intro cells instants written
    constructor
    · intro within
      exact buildArray_of_reads rfl (forall₂_reads written within) column
    · intro row text micros here named far first
      have failed := firstUnreadable_of_far written here named far first
      exact buildArray_of_unreadable rfl failed column
  · intro separator micros separates within since
    obtain ⟨time, stamp, same⟩ := Calendar.stamp_writtenInstant separates micros
    rw [stamp.readTimestamp? since, Date.number_ofNumber, same]
    exact if_pos within

/-- The last microsecond before the epoch, and the first that 64 bits do not hold. -/
theorem written_timestamps_read_limits :
    readTimestamp? (writtenInstant ' ' (-1)) = some (-1) ∧
      buildArray .timestamp [none, some " 294247-01-10T04:00:54.775808"] "c" =
        .error (.conversion 1 "c" "Invalid timestamp:  294247-01-10T04:00:54.775808") := by
  obtain ⟨_, columns, instants⟩ := written_timestamps_read "c"
  constructor
  · exact instants ' ' (-1) (.inl rfl) (by decide) (by decide)
  · let date : Date := ⟨294247, 1, 10, by decide⟩
    have shown : Calendar.Shows "04:00:54".toList 4 0 54 := by
      have spelled : "04:00:54".toList =
          Number.padded 2 4 ++ ':' :: (Number.padded 2 0 ++ ':' :: Number.padded 2 54) := by decide
      rw [spelled]
      exact .full (by decide) (by decide) (by decide)
    have stamp : Stamp date ⟨4, 0, 54, 775808⟩ "294247-01-10T04:00:54.775808".toList := by
      have spelled : "294247-01-10T04:00:54.775808".toList =
          date.written (4 + 0) ++ 'T' :: ("04:00:54".toList ++ ".775808".toList) := by decide
      rw [spelled]
      exact .timed 0 (.inr rfl) shown (Calendar.fraction_padded (by decide : 775808 < 1000000))
    have last : WrittenTimestamp (some " 294247-01-10T04:00:54.775808")
        (some (instant date.number ⟨4, 0, 54, 775808⟩)) :=
      .text (by decide) stamp (List.forall_mem_singleton.mpr (by decide : Text.isBlank ' ' = true))
        (List.forall_mem_nil _)
    have far : ¬ Number.InSignedRange 64 (instant date.number ⟨4, 0, 54, 775808⟩) := by decide
    refine (columns _ _ (.cons .null (.cons last .nil))).2 1 _ _ rfl rfl far ?_
    intro earlier less micros here
    obtain rfl : earlier = 0 := by omega
    cases here

end RemoteQuery.Columnar
