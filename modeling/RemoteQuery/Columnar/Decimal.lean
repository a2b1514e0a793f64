import RemoteQuery.Number.Numeral
import RemoteQuery.Text.Cut

/-!
# Decimals of fixed scale

A decimal is held, in 128 bits, as the integer that it is when its point is moved by the scale. A
text with more fractional digits than the scale is refused, not rounded. A negative scale allows no
fractional digit and moves the point by nothing.
-/
namespace RemoteQuery.Columnar

/-- Why a text is no decimal of its column. The texts are those without outer blanks. -/
inductive DecimalFault
  | form (text : String)
  | fractionalDigits (text : String) (scale : Nat)
  | digits (text : String) (precision : Nat)
  deriving DecidableEq, Repr

def DecimalFault.message : DecimalFault → String
  | form text => "Invalid decimal value: " ++ text
  | fractionalDigits text scale =>
    "Decimal value " ++ text ++ " has more than " ++ toString scale ++ " fractional digits"
  | digits text precision => "Decimal value " ++ text ++ " exceeds precision " ++ toString precision

/-- The digits of a decimal whose point is moved by `places`, without zeros in front. -/
def shiftedDigits (places : Nat) (whole fraction : List Char) : List Char :=
  whole.dropWhile (· == '0') ++ fraction ++ List.replicate (places - fraction.length) '0'

/-- The integer of a row of digits, if 128 bits hold it; no digit at all is zero. -/
def readMagnitude? (digits : List Char) : Option Int :=
  if digits.isEmpty then some 0 else Number.signed? 128 digits

def readDecimal (precision : Nat) (scale : Int) (text : List Char) : Except DecimalFault Int :=
  let shown := String.ofList text
  let (negative, digits) := Number.splitSign text
  let (whole, fraction) := (Text.cut? (· == '.') digits).getD (digits, [])
  let places := scale.toNat
  if whole.isEmpty && fraction.isEmpty then .error (.form shown)
  else if !whole.all Number.isDigit || !fraction.all Number.isDigit then .error (.form shown)
  else if places < fraction.length then .error (.fractionalDigits shown places)
  else if precision < (whole.dropWhile (· == '0')).length + places then
    .error (.digits shown precision)
  else
    match readMagnitude? (shiftedDigits places whole fraction) with
    | none => .error (.form shown)
    | some magnitude => .ok (if negative then -magnitude else magnitude)

end RemoteQuery.Columnar
