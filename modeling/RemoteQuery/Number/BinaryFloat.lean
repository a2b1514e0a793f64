import RemoteQuery.Number.Scientific

/-!
# Binary floating-point numbers

Numbers are held as the bits of the interchange format, for both widths at once: a fraction field of
`fractionBits` bits below an exponent field of `exponentBits` bits below the sign. Rounding goes to
the nearest number, and of two equally near to the one whose last bit is zero. It is computed with
exact quotients of natural numbers.
-/
namespace RemoteQuery.Number

structure FloatLayout where
  fractionBits : Nat
  exponentBits : Nat
  deriving DecidableEq, Repr

namespace FloatLayout

def binary32 : FloatLayout := ⟨23, 8⟩

def binary64 : FloatLayout := ⟨52, 11⟩

/-- The power of two of the last bit of the smallest numbers. -/
def leastExponent (layout : FloatLayout) : Int :=
  2 - (Nat.pow 2 (layout.exponentBits - 1) : Int) - (layout.fractionBits : Int)

def infinity (layout : FloatLayout) : Nat :=
  (Nat.pow 2 layout.exponentBits - 1) * Nat.pow 2 layout.fractionBits

def signBit (layout : FloatLayout) : Nat := Nat.pow 2 (layout.fractionBits + layout.exponentBits)

/-- The natural number nearest to a quotient, the even one of two. -/
def roundQuotient (numerator denominator : Nat) : Nat :=
  let quotient := numerator / denominator
  let twice := 2 * (numerator % denominator)
  if twice < denominator then quotient
  else if denominator < twice then quotient + 1
  else quotient + quotient % 2

/-- A quotient divided by a power of two, as numerator and denominator. -/
def shifted (numerator denominator : Nat) (exponent : Int) : Nat × Nat :=
  if 0 ≤ exponent then (numerator, denominator * Nat.pow 2 exponent.toNat)
  else (numerator * Nat.pow 2 (-exponent).toNat, denominator)

/-- The power of two of the last bit that a positive quotient keeps: the quotient divided by it has
`fractionBits + 1` bits, unless that power would lie below the least. -/
def lastExponent (layout : FloatLayout) (numerator denominator : Nat) : Int :=
  let guess := (numerator.log2 : Int) - denominator.log2 - layout.fractionBits
  let (a, b) := shifted numerator denominator guess
  let exponent := if a < b * Nat.pow 2 layout.fractionBits then guess - 1 else guess
  max exponent layout.leastExponent

/-- The bits of a positive quotient, without a sign. The exponent field and the fraction field are
added, so that a fraction that rounds up to the next power of two carries into the exponent. -/
def roundBits (layout : FloatLayout) (numerator denominator : Nat) : Nat :=
  let exponent := layout.lastExponent numerator denominator
  let (a, b) := shifted numerator denominator exponent
  let steps := (exponent - layout.leastExponent).toNat
  min (steps * Nat.pow 2 layout.fractionBits + roundQuotient a b) layout.infinity

/-- The bits of `digits * 10 ^ exponent`. From `10 ^ 400` on every width is at infinity and below
`10 ^ -400` at zero, so that no larger power of ten is computed. -/
def magnitude (layout : FloatLayout) (digits : Nat) (exponent : Int) : Nat :=
  if digits = 0 then 0
  else if 400 ≤ exponent then layout.infinity
  else if exponent + (digits.log2 / 3 + 1 : Nat) ≤ -400 then 0
  else if 0 ≤ exponent then layout.roundBits (digits * Nat.pow 10 exponent.toNat) 1
  else layout.roundBits digits (Nat.pow 10 (-exponent).toNat)

end FloatLayout

/-- A floating-point number by its bits. All the bit patterns that are no number are one value. -/
inductive FloatValue
  | bits (pattern : Nat)
  | notANumber
  deriving DecidableEq, Repr

namespace FloatValue

def ofScientific (layout : FloatLayout) : Scientific → FloatValue
  | .notANumber => .notANumber
  | .infinite negative => .bits ((if negative then layout.signBit else 0) + layout.infinity)
  | .finite negative digits exponent =>
    .bits ((if negative then layout.signBit else 0) + layout.magnitude digits exponent)

def read? (layout : FloatLayout) (text : List Char) : Option FloatValue :=
  (Scientific.read? text).map (ofScientific layout)

/-- A finite number that is not below zero as `mantissa * 2 ^ exponent`. The zero with a minus sign
is one of them. -/
def nonnegative? (layout : FloatLayout) : FloatValue → Option (Nat × Int)
  | .notANumber => none
  | .bits pattern =>
    if pattern = layout.signBit then some (0, 0)
    else if layout.infinity ≤ pattern then none
    else
      let field := pattern / Nat.pow 2 layout.fractionBits
      let fraction := pattern % Nat.pow 2 layout.fractionBits
      if field = 0 then some (fraction, layout.leastExponent)
      else some (Nat.pow 2 layout.fractionBits + fraction, layout.leastExponent + (field - 1 : Nat))

end FloatValue

end RemoteQuery.Number
