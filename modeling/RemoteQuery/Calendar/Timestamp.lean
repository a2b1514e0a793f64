import RemoteQuery.Calendar.Date

/-!
# Timestamps

A timestamp is a date and, behind a space or a `T`, a time of day; it is counted in microseconds and
must fit 64 bits. A date alone is its midnight. Digits of the second beyond the microsecond are read
and dropped. Hours, minutes and seconds are bounded from above only.
-/
namespace RemoteQuery.Calendar

def microsPerSecond : Int := 1000000

def secondsPerDay : Int := 86400

/-- The microseconds in a decimal fraction of a second of at most nine digits. -/
def readFraction? (digits : List Char) : Option Int :=
  if digits.all Number.isDigit && digits.length ≤ 9 then
    some (Number.digitsValue ((digits ++ List.replicate 6 '0').take 6))
  else none

/-- Hours, minutes and seconds of a clock reading; the seconds may be left out. -/
def readClockFields? (text : List Char) : Option (Int × Int × Int) := do
  let (hours, rest) ← Text.cut? (· == ':') text
  let (minutes, seconds) := (Text.cut? (· == ':') rest).getD (rest, ['0'])
  let hours ← Number.signed? 64 hours
  let minutes ← Number.signed? 64 minutes
  let seconds ← Number.signed? 64 seconds
  if 23 < hours ∨ 59 < minutes ∨ 59 < seconds then none else some (hours, minutes, seconds)

def secondsOfDay (hours minutes seconds : Int) : Int := hours * 3600 + minutes * 60 + seconds

def readClock? (text : List Char) : Option Int := do
  let (hours, minutes, seconds) ← readClockFields? text
  return secondsOfDay hours minutes seconds

/-- The value, if 64 bits hold it. -/
def within64? (value : Int) : Option Int :=
  if Number.InSignedRange 64 value then some value else none

/-- The date, the clock reading and the fraction of a second. -/
def splitTimestamp (text : List Char) : List Char × List Char × List Char :=
  let (date, time) :=
    (Text.cut? (fun c => c == ' ' || c == 'T') text).getD (text, "00:00:00".toList)
  let (clock, fraction) := (Text.cut? (· == '.') time).getD (time, [])
  (date, clock, fraction)

def readTimestamp? (text : List Char) : Option Int := do
  let (date, clock, fraction) := splitTimestamp text
  let day ← readDate? date
  let seconds ← readClock? clock
  let micros ← readFraction? fraction
  let whole ← within64? ((day * secondsPerDay + seconds) * microsPerSecond)
  within64? (whole + micros)

/-- The values on the way to the seconds of a timestamp, in the order in which they come up. The
last steps, to microseconds, are checked. -/
def secondsSteps (day hours minutes seconds : Int) : List Int :=
  let ofDay := secondsOfDay hours minutes seconds
  [hours * 3600, minutes * 60, hours * 3600 + minutes * 60, ofDay, day * secondsPerDay,
    day * secondsPerDay + ofDay]

/-- The text is a timestamp whose day number or whose seconds are not reached within 64 bits. -/
def timestampPasses64 (text : List Char) : Bool :=
  let (date, clock, fraction) := splitTimestamp text
  datePasses64 date ||
    match readDate? date, readClockFields? clock, readFraction? fraction with
    | some day, some (hours, minutes, seconds), some _ =>
      passes64 (secondsSteps day hours minutes seconds)
    | _, _, _ => false

end RemoteQuery.Calendar
