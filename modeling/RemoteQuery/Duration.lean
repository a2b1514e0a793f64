import RemoteQuery.Number.BinaryFloat

/-!
# Durations

A duration is a whole number of nanoseconds. A number of seconds given as a floating-point number is
rounded to the nearest nanosecond, the even one of two. Clocks tick in milliseconds, so a wait ends
at the first tick that is not before its end.
-/
namespace RemoteQuery

structure Duration where
  nanoseconds : Nat
  deriving DecidableEq, Repr

namespace Duration

def ofSeconds (seconds : Nat) : Duration := ⟨seconds * 1000000000⟩

def ofSecondsAndNanos (seconds nanos : Nat) : Duration := ⟨seconds * 1000000000 + nanos⟩

def wholeSeconds (d : Duration) : Nat := d.nanoseconds / 1000000000

/-- The nanoseconds beyond the last whole second. -/
def subsecond (d : Duration) : Nat := d.nanoseconds % 1000000000

def isZero (d : Duration) : Bool := d.nanoseconds == 0

/-- The ticks of a millisecond clock that pass before the duration is over. -/
def ticks (d : Duration) : Nat := (d.nanoseconds + 999999) / 1000000

/-- A duration counts its whole seconds in 64 bits. -/
def secondsBound : Nat := Nat.pow 2 64

def fits (d : Duration) : Bool := d.wholeSeconds < secondsBound

def ofBinarySeconds (mantissa : Nat) (exponent : Int) : Duration :=
  let (numerator, denominator) := Number.FloatLayout.shifted (mantissa * 1000000000) 1 (-exponent)
  ⟨Number.FloatLayout.roundQuotient numerator denominator⟩

/-- A count of a unit with its decimal fraction, which has `places` digits and is written without
the zeros at its end. -/
def fractionText (whole fraction places : Nat) : String :=
  if fraction = 0 then toString whole
  else
    let digits := Nat.toDigits 10 fraction
    let full := List.replicate (places - digits.length) '0' ++ digits
    let kept := (full.reverse.dropWhile (· == '0')).reverse
    toString whole ++ "." ++ String.ofList kept

/-- The duration in the largest unit of which it has a whole one. -/
def describe (d : Duration) : String :=
  let n := d.nanoseconds
  if 1000000000 ≤ n then fractionText (n / 1000000000) (n % 1000000000) 9 ++ "s"
  else if 1000000 ≤ n then fractionText (n / 1000000) (n % 1000000) 6 ++ "ms"
  else if 1000 ≤ n then fractionText (n / 1000) (n % 1000) 3 ++ "µs"
  else toString n ++ "ns"

theorem ticks_eq_zero_iff {d : Duration} : d.ticks = 0 ↔ d.isZero = true := by
  simp only [ticks, isZero, beq_iff_eq]
  omega

end Duration

end RemoteQuery
