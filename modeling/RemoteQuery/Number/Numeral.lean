/-!
# Decimal numerals of bounded integers

A numeral is an optional sign and one or more ASCII digits, with any number of leading zeros; a
natural number takes no minus sign. The value must lie in the range of the width it is read for.
-/
namespace RemoteQuery.Number

def isDigit (c : Char) : Bool := '0' ≤ c && c ≤ '9'

def digitValue (c : Char) : Nat := c.toNat - '0'.toNat

/-- The value of a row of digits, most significant first. -/
def digitsValue (digits : List Char) : Nat :=
  digits.foldl (fun value c => 10 * value + digitValue c) 0

def digits? (text : List Char) : Option Nat :=
  if text ≠ [] ∧ text.all isDigit then some (digitsValue text) else none

/-- A sign that may stand in front, and what follows it; `true` is for a minus. -/
def splitSign : List Char → Bool × List Char
  | '-' :: rest => (true, rest)
  | '+' :: rest => (false, rest)
  | text => (false, text)

def integer? (text : List Char) : Option Int :=
  match splitSign text with
  | (true, rest) => (digits? rest).map fun value => -(value : Int)
  | (false, rest) => (digits? rest).map fun value => (value : Int)

/-- The integers of `bits` bits in two's complement. -/
def InSignedRange (bits : Nat) (value : Int) : Prop :=
  -(Nat.pow 2 (bits - 1) : Int) ≤ value ∧ value < Nat.pow 2 (bits - 1)

instance (bits : Nat) (value : Int) : Decidable (InSignedRange bits value) :=
  inferInstanceAs (Decidable (_ ∧ _))

def signed? (bits : Nat) (text : List Char) : Option Int :=
  (integer? text).filter fun value => decide (InSignedRange bits value)

def natural? (text : List Char) : Option Nat :=
  match text with
  | '+' :: rest => digits? rest
  | text => digits? text

def unsigned? (bits : Nat) (text : List Char) : Option Nat :=
  (natural? text).filter fun value => decide (value < Nat.pow 2 bits)

end RemoteQuery.Number
