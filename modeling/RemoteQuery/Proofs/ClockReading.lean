import Mathlib.Data.Nat.Digits.Lemmas
import RemoteQuery.Calendar.Timestamp
import RemoteQuery.Proofs.SignedNumerals

/-!
# Clock readings

A clock reading has three parts, which are signed numerals; only too large ones are refused. A
fraction of a second is read to six digits, and digits behind these are dropped.
-/
namespace RemoteQuery.Calendar

/-- Hours, minutes and seconds with colons between them; the seconds may be left out. -/
inductive Clock : List Char → Int → Int → Int → Prop
  | short {hours minutes : List Char} {h m : Int} (hour : Number.signed? 64 hours = some h)
      (minute : Number.signed? 64 minutes = some m) : Clock (hours ++ ':' :: minutes) h m 0
  | full {hours minutes seconds : List Char} {h m s : Int}
      (hour : Number.signed? 64 hours = some h) (minute : Number.signed? 64 minutes = some m)
      (second : Number.signed? 64 seconds = some s) :
      Clock (hours ++ ':' :: (minutes ++ ':' :: seconds)) h m s

/-- A fraction of a second of at most nine digits, in whole microseconds. -/
inductive Fraction : List Char → Int → Prop
  | none : Fraction [] 0
  | digits {digits : List Char} (all : ∀ c ∈ digits, Number.isDigit c = true)
      (short : digits.length ≤ 9) :
      Fraction ('.' :: digits) (Number.digitsValue digits * 10 ^ 6 / 10 ^ digits.length : Nat)

theorem colon_not_mem {text : List Char} {value : Int}
    (h : Number.signed? 64 text = some value) : ∀ c ∈ text, (c == ':') = false := by
  intro c member
  exact beq_false_of_ne (Number.not_isNumeral (Number.isNumeral_of_signed? h c member) (by decide))

theorem cut?_colon {before : List Char} {value : Int}
    (h : Number.signed? 64 before = some value) (after : List Char) :
    Text.cut? (· == ':') (before ++ ':' :: after) = some (before, after) :=
  Text.cut?_eq_some_iff.mpr ⟨colon_not_mem h, ':', by decide, rfl⟩

theorem point_not_mem {text : List Char} {h m s : Int} (clock : Clock text h m s) :
    ∀ c ∈ text, (c == '.') = false := by
  have numeral {part : List Char} {value : Int} (read : Number.signed? 64 part = some value) :
      ∀ c ∈ part, (c == '.') = false := fun c member =>
    beq_false_of_ne (Number.not_isNumeral (Number.isNumeral_of_signed? read c member) (by decide))
  intro c member
  cases clock with
  | short hour minute =>
    rcases List.mem_append.mp member with member | member
    · exact numeral hour c member
    · rcases List.mem_cons.mp member with rfl | member
      · decide
      · exact numeral minute c member
  | full hour minute second =>
    rcases List.mem_append.mp member with member | member
    · exact numeral hour c member
    · rcases List.mem_cons.mp member with rfl | member
      · decide
      · rcases List.mem_append.mp member with member | member
        · exact numeral minute c member
        · rcases List.mem_cons.mp member with rfl | member
          · decide
          · exact numeral second c member

theorem readClockFields?_of_clock {text : List Char} {h m s : Int} (clock : Clock text h m s) :
    readClockFields? text =
      if 23 < h ∨ 59 < m ∨ 59 < s then none else some (h, m, s) := by
  cases clock with
  | short hour minute =>
    have whole := Text.cut?_eq_none_iff.mpr (colon_not_mem minute)
    have zero : Number.signed? 64 ['0'] = some 0 := by decide
    simp only [readClockFields?, cut?_colon hour, whole, Option.getD_none, hour, minute, zero,
      Option.bind_eq_bind, Option.bind_some]
  | full hour minute second =>
    simp only [readClockFields?, cut?_colon hour, cut?_colon minute, Option.getD_some, hour,
      minute, second, Option.bind_eq_bind, Option.bind_some]

theorem readClock?_of_clock {text : List Char} {h m s : Int} (clock : Clock text h m s) :
    readClock? text =
      if 23 < h ∨ 59 < m ∨ 59 < s then none else some (h * 3600 + m * 60 + s) := by
  rw [readClock?, readClockFields?_of_clock clock]
  split <;> rfl

theorem exists_clock {text : List Char} {total : Int} (h : readClock? text = some total) :
    ∃ h m s, Clock text h m s := by
  obtain ⟨_, h, _⟩ := Option.bind_eq_some_iff.mp h
  obtain ⟨⟨hours, rest⟩, cut, read⟩ := Option.bind_eq_some_iff.mp h
  obtain ⟨_, colon, isColon, rfl⟩ := Text.cut?_eq_some_iff.mp cut
  rw [beq_iff_eq.mp isColon]
  cases again : Text.cut? (· == ':') rest with
  | none =>
    simp only [again, Option.getD_none] at read
    obtain ⟨hour, first, read⟩ := Option.bind_eq_some_iff.mp read
    obtain ⟨minute, last, _⟩ := Option.bind_eq_some_iff.mp read
    exact ⟨hour, minute, 0, .short first last⟩
  | some pair =>
    obtain ⟨minutes, seconds⟩ := pair
    simp only [again, Option.getD_some] at read
    obtain ⟨_, colon, isColon, rfl⟩ := Text.cut?_eq_some_iff.mp again
    rw [beq_iff_eq.mp isColon]
    obtain ⟨hour, first, read⟩ := Option.bind_eq_some_iff.mp read
    obtain ⟨minute, next, read⟩ := Option.bind_eq_some_iff.mp read
    obtain ⟨second, last, _⟩ := Option.bind_eq_some_iff.mp read
    exact ⟨hour, minute, second, .full first next last⟩

/-- Of the digits and six zeros behind them, the first six are the microseconds. -/
theorem digitsValue_take_six {digits : List Char}
    (all : ∀ c ∈ digits, Number.isDigit c = true) :
    Number.digitsValue ((digits ++ List.replicate 6 '0').take 6) =
      Number.digitsValue digits * 10 ^ 6 / 10 ^ digits.length := by
  have value : Number.digitsValue (digits ++ List.replicate 6 '0') =
      Number.digitsValue digits * 10 ^ 6 := by
    rw [Number.digitsValue_append, Number.digitsValue_zeros, List.length_replicate, Nat.add_zero]
  have length : ((digits ++ List.replicate 6 '0').drop 6).length = digits.length := by
    rw [List.length_drop, List.length_append, List.length_replicate, Nat.add_sub_cancel]
  have small : Number.digitsValue ((digits ++ List.replicate 6 '0').drop 6) <
      10 ^ digits.length := by
    rw [← length]
    apply Number.digitsValue_lt
    intro c member
    rcases List.mem_append.mp (List.mem_of_mem_drop member) with member | member
    · exact all c member
    · rw [List.eq_of_mem_replicate member]
      decide
  have whole : Number.digitsValue (digits ++ List.replicate 6 '0') =
      10 ^ digits.length * Number.digitsValue ((digits ++ List.replicate 6 '0').take 6)
        + Number.digitsValue ((digits ++ List.replicate 6 '0').drop 6) := by
    rw [← length, Nat.mul_comm, ← Number.digitsValue_append, List.take_append_drop]
  rw [← value, whole, Nat.mul_add_div (Nat.pow_pos (by decide)), Nat.div_eq_of_lt small,
    Nat.add_zero]

theorem Fraction.bounds {text : List Char} {micros : Int} (h : Fraction text micros) :
    0 ≤ micros ∧ micros < microsPerSecond := by
  cases h with
  | none => decide
  | digits all short =>
    refine ⟨Int.natCast_nonneg _, ?_⟩
    have less : Number.digitsValue _ * 10 ^ 6 < 10 ^ _ * 10 ^ 6 :=
      Nat.mul_lt_mul_of_pos_right (Number.digitsValue_lt all) (by decide)
    exact Int.ofNat_lt.mpr (Nat.div_lt_of_lt_mul less)

theorem readFraction?_of_digits {digits : List Char}
    (all : ∀ c ∈ digits, Number.isDigit c = true) (short : digits.length ≤ 9) :
    readFraction? digits =
      some (Number.digitsValue digits * 10 ^ 6 / 10 ^ digits.length : Nat) := by
  have taken : (digits.all Number.isDigit && decide (digits.length ≤ 9)) = true := by
    rw [List.all_eq_true.mpr all, decide_eq_true short]
    rfl
  rw [readFraction?, if_pos taken, digitsValue_take_six all]
  rfl

theorem digits_of_readFraction? {digits : List Char} {micros : Int}
    (h : readFraction? digits = some micros) :
    (∀ c ∈ digits, Number.isDigit c = true) ∧ digits.length ≤ 9 := by
  unfold readFraction? at h
  split at h
  · rename_i taken
    rw [Bool.and_eq_true, decide_eq_true_iff] at taken
    exact ⟨List.all_eq_true.mp taken.1, taken.2⟩
  · cases h

/-- A clock reading ends before the point of the fraction. -/
theorem Fraction.parts {clock fraction : List Char} {h m s micros : Int}
    (divided : Fraction fraction micros) (clocked : Clock clock h m s) :
    ∃ digits, (Text.cut? (· == '.') (clock ++ fraction)).getD (clock ++ fraction, []) =
      (clock, digits) ∧ readFraction? digits = some micros := by
  cases divided with
  | none =>
    refine ⟨[], ?_, by decide⟩
    rw [List.append_nil, Text.cut?_eq_none_iff.mpr (point_not_mem clocked), Option.getD_none]
  | @digits digits all short =>
    refine ⟨digits, ?_, readFraction?_of_digits all short⟩
    rw [Text.cut?_eq_some_iff.mpr ⟨point_not_mem clocked, '.', by decide, rfl⟩, Option.getD_some]

end RemoteQuery.Calendar
