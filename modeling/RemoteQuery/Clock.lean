/-!
# Clocks

A clock counts ticks of a millisecond and does not last for ever. What a deadline or a sleep ends at
must be an instant of the clock.

How long a sleep a timer can hold is up to the timer, and so it is told with the clock; by default
every sleep that ends at an instant of the clock is held. A longer sleep falls back on thirty years.
-/
namespace RemoteQuery

structure Clock where
  /-- The first instant that is none of the clock. -/
  limit : Nat := Nat.pow 2 63 * 1000
  /-- Whether a sleep that begins at an instant can last for as many ticks as it is asked to. -/
  holds : (now asked : Nat) → Bool := fun now asked => now + asked < limit

namespace Clock

/-- Thirty years of 365 days. -/
def fallback : Nat := 30 * 365 * 24 * 60 * 60 * 1000

/-- How many ticks a sleep lasts that begins at an instant. -/
def sleep (clock : Clock) (now asked : Nat) : Nat :=
  if clock.holds now asked then asked else min asked fallback

def instant? (clock : Clock) (instant : Nat) : Option Nat :=
  if instant < clock.limit then some instant else none

/-- The instant at which a sleep is over. -/
def wake? (clock : Clock) (now asked : Nat) : Option Nat :=
  clock.instant? (now + clock.sleep now asked)

theorem instant?_eq_some_iff {clock : Clock} {instant found : Nat} :
    clock.instant? instant = some found ↔ found = instant ∧ instant < clock.limit := by
  rw [instant?, Option.ite_none_right_eq_some, Option.some.injEq, eq_comm, and_comm]

theorem instant?_eq_none_iff {clock : Clock} {instant : Nat} :
    clock.instant? instant = none ↔ clock.limit ≤ instant := by
  simp [instant?]

theorem wake?_eq_some_iff {clock : Clock} {now asked instant : Nat} :
    clock.wake? now asked = some instant ↔
      instant = now + clock.sleep now asked ∧ instant < clock.limit := by
  rw [wake?, instant?_eq_some_iff]
  constructor <;> rintro ⟨rfl, within⟩ <;> exact ⟨rfl, within⟩

theorem wake?_eq_none_iff {clock : Clock} {now asked : Nat} :
    clock.wake? now asked = none ↔ clock.limit ≤ now + clock.sleep now asked :=
  instant?_eq_none_iff

theorem sleep_zero (clock : Clock) (now : Nat) : clock.sleep now 0 = 0 := by
  rw [sleep]
  split <;> simp

/-- A sleep lasts as long as it is asked to, unless it is too long for the timer. -/
theorem sleep_cases (clock : Clock) (now asked : Nat) :
    clock.sleep now asked = asked ∨
      clock.holds now asked = false ∧ fallback < asked ∧ clock.sleep now asked = fallback := by
  rw [sleep]
  cases clock.holds now asked with
  | true => exact .inl rfl
  | false =>
    by_cases short : asked ≤ fallback
    · exact .inl (Nat.min_eq_left short)
    · exact .inr ⟨rfl, Nat.lt_of_not_le short, Nat.min_eq_right (Nat.le_of_not_le short)⟩

theorem sleep_le (clock : Clock) (now asked : Nat) : clock.sleep now asked ≤ asked := by
  rw [sleep]
  split <;> omega

theorem le_sleep (clock : Clock) (now asked : Nat) :
    min asked fallback ≤ clock.sleep now asked := by
  rw [sleep]
  split <;> omega

end Clock

end RemoteQuery
