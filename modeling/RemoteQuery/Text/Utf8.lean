/-!
# Bytes read as UTF-8

Bytes are a text or have a first fault. The fault tells how many bytes before it are sound, and how
many bytes, one to three, form the unsound sequence; none if the bytes end in its middle.
-/
namespace RemoteQuery.Text.Utf8

structure Fault where
  validUpTo : Nat
  length : Option Nat
  deriving DecidableEq, Repr

def Fault.message (fault : Fault) : String :=
  match fault.length with
  | some length =>
    "invalid utf-8 sequence of " ++ toString length ++ " bytes from index "
      ++ toString fault.validUpTo
  | none => "incomplete utf-8 byte sequence from index " ++ toString fault.validUpTo

def between (low high : UInt8) (b : UInt8) : Bool := low ≤ b && b ≤ high

/-- The ranges that the second, third and fourth byte must lie in after a first byte above 127.
`none` if no sequence starts with that byte. -/
def tails? (first : UInt8) : Option (List (UInt8 → Bool)) :=
  let any := between 0x80 0xbf
  if between 0xc2 0xdf first then some [any]
  else if first == 0xe0 then some [between 0xa0 0xbf, any]
  else if first == 0xed then some [between 0x80 0x9f, any]
  else if between 0xe1 0xef first then some [any, any]
  else if first == 0xf0 then some [between 0x90 0xbf, any, any]
  else if first == 0xf4 then some [between 0x80 0x8f, any, any]
  else if between 0xf1 0xf3 first then some [any, any, any]
  else none

/-- How many of the bytes fit their ranges, and whether all the ranges were met, or the bytes ended,
or a byte did not fit. -/
inductive Match
  | all
  | ended
  | unfit (fitting : Nat)

def fit (fitting : Nat) : List (UInt8 → Bool) → List UInt8 → Match
  | [], _ => .all
  | _ :: _, [] => .ended
  | range :: ranges, b :: bytes =>
    if range b then fit (fitting + 1) ranges bytes else .unfit fitting

/-- The first fault at or after `index`, where `skip` bytes still belong to a sound sequence. -/
def faultFrom (index skip : Nat) : List UInt8 → Option Fault
  | [] => none
  | b :: bytes =>
    match skip with
    | skip + 1 => faultFrom (index + 1) skip bytes
    | 0 =>
      if b < 0x80 then faultFrom (index + 1) 0 bytes
      else
        match tails? b with
        | none => some ⟨index, some 1⟩
        | some ranges =>
          match fit 1 ranges bytes with
          | .all => faultFrom (index + 1) ranges.length bytes
          | .ended => some ⟨index, none⟩
          | .unfit fitting => some ⟨index, some fitting⟩

def decode (bytes : List UInt8) : Except Fault String :=
  match String.fromUTF8? ⟨bytes.toArray⟩ with
  | some text => .ok text
  | none => .error ((faultFrom 0 0 bytes).getD ⟨bytes.length, none⟩)

def encode (text : String) : List UInt8 := text.toUTF8.data.toList

theorem decode_encode (text : String) : decode (encode text) = .ok text := by
  have same : (⟨(encode text).toArray⟩ : ByteArray) = text.toUTF8 := by simp [encode]
  have valid : text.toUTF8.IsValidUTF8 := text.isValidUTF8
  rw [decode, same, String.fromUTF8?, dif_pos valid]
  rfl

end RemoteQuery.Text.Utf8
