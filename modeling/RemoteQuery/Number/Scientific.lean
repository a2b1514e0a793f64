import RemoteQuery.Number.Numeral
import RemoteQuery.Text.Cut

/-!
# Numerals with a fraction and an exponent

The text of a floating-point number: an optional sign, digits with at most one point among them, and
an optional power of ten; or one of the words for infinity and for no number, in any ASCII case. At
least one digit must stand beside the point.
-/
namespace RemoteQuery.Number

/-- The number that a text denotes: `digits * 10 ^ exponent` with a sign, before any rounding. -/
inductive Scientific
  | finite (negative : Bool) (digits : Nat) (exponent : Int)
  | infinite (negative : Bool)
  | notANumber
  deriving DecidableEq, Repr

def isWord (word : String) (text : List Char) : Bool := text.map Char.toLower == word.toList

/-- Digits before and after the point, as one number and the power of ten that goes with it. -/
def significand? (text : List Char) : Option (Nat × Int) :=
  let (whole, fraction) := (Text.cut? (· == '.') text).getD (text, [])
  if whole.all isDigit && fraction.all isDigit && !(whole.isEmpty && fraction.isEmpty) then
    some (digitsValue (whole ++ fraction), -(fraction.length : Int))
  else none

def unsignedScientific? (negative : Bool) (text : List Char) : Option Scientific :=
  if isWord "inf" text || isWord "infinity" text then some (.infinite negative)
  else if isWord "nan" text then some .notANumber
  else
    match Text.cut? (fun c => c == 'e' || c == 'E') text with
    | none => (significand? text).map fun (digits, shift) => .finite negative digits shift
    | some (before, after) => do
      let (digits, shift) ← significand? before
      let exponent ← integer? after
      return .finite negative digits (exponent + shift)

def Scientific.read? (text : List Char) : Option Scientific :=
  let (negative, rest) := splitSign text
  unsignedScientific? negative rest

end RemoteQuery.Number
