/-!
# Hexadecimal digits

Digits are read in either case and written in lower case. Bytes are read two digits at a time, and
the ASCII white space between digits does not count.
-/
namespace RemoteQuery.Text

/-- There are few enough characters of ASCII to go through them all. -/
theorem exists_ascii {c : Char} (ascii : c.toNat < 128) : ∃ n : Fin 128, c = Char.ofNat n :=
  ⟨⟨c.toNat, ascii⟩, (Char.ofNat_toNat c).symm⟩

namespace Hex

def value? (c : Char) : Option Nat :=
  if '0' ≤ c ∧ c ≤ '9' then some (c.toNat - '0'.toNat)
  else if 'a' ≤ c ∧ c ≤ 'f' then some (c.toNat - 'a'.toNat + 10)
  else if 'A' ≤ c ∧ c ≤ 'F' then some (c.toNat - 'A'.toNat + 10)
  else none

def digit (n : Nat) : Char :=
  if n < 10 then Char.ofNat ('0'.toNat + n) else Char.ofNat ('a'.toNat + (n - 10))

/-- The last `width` digits of a number, leading zeros included. -/
def padded : (width : Nat) → Nat → List Char
  | 0, _ => []
  | width + 1, n => padded width (n / 16) ++ [digit (n % 16)]

def encodeByte (b : UInt8) : List Char := [digit (b.toNat / 16), digit (b.toNat % 16)]

def encode (bytes : List UInt8) : String := String.ofList (bytes.flatMap encodeByte)

/-- Space, tab, line feed, form feed and carriage return. The vertical tab is not among them. -/
def isSpace (c : Char) : Bool := c == ' ' || c == '\t' || c == '\n' || c == '\x0c' || c == '\r'

def bytes? : List Char → Option (List UInt8)
  | [] => some []
  | [_] => none
  | high :: low :: rest => do
    let high ← value? high
    let low ← value? low
    let bytes ← bytes? rest
    return UInt8.ofNat (16 * high + low) :: bytes

def decode? (text : String) : Option (List UInt8) := bytes? (text.toList.filter (!isSpace ·))

theorem value?_digit {n : Nat} (h : n < 16) : value? (digit n) = some n := by
  have : ∀ k : Fin 16, value? (digit k) = some k.val := by decide
  exact this ⟨n, h⟩

theorem value?_ascii {c : Char} {n : Nat} (h : value? c = some n) : c.toNat < 128 := by
  have code (a b : Char) : a ≤ b ↔ a.toNat ≤ b.toNat := Iff.rfl
  simp only [value?, code, Char.reduceToNat] at h
  split at h
  · omega
  · split at h
    · omega
    · split at h
      · omega
      · cases h

theorem ascii_of_toLower {c : Char} {n : Nat} (small : n < 16) (h : c.toLower = digit n) :
    c.toNat < 128 := by
  have table : ∀ k : Fin 16, (digit k).toNat < 128 := by decide
  by_cases upper : c.val ≥ 'A'.val ∧ c.val ≤ 'Z'.val
  · have last : c.toNat ≤ 'Z'.toNat := upper.2
    exact Nat.lt_of_le_of_lt last (by decide)
  · have same : c.toLower = c := dif_neg upper
    rw [← same, h]
    exact table ⟨n, small⟩

/-- A character has the value whose digit its lower case is. -/
theorem value?_eq_some_iff {c : Char} {n : Nat} :
    value? c = some n ↔ n < 16 ∧ c.toLower = digit n := by
  constructor
  · intro h
    have table : ∀ k : Fin 128, ∀ n ∈ value? (Char.ofNat k),
        n < 16 ∧ (Char.ofNat k).toLower = digit n := by decide +kernel
    obtain ⟨k, rfl⟩ := exists_ascii (value?_ascii h)
    exact table k n h
  · rintro ⟨small, h⟩
    have table : ∀ k : Fin 128, ∀ n : Fin 16, (Char.ofNat k).toLower = digit n →
        value? (Char.ofNat k) = some n.val := by decide +kernel
    obtain ⟨k, rfl⟩ := exists_ascii (ascii_of_toLower small h)
    exact table k ⟨n, small⟩ h

theorem bytes?_encode (bytes : List UInt8) : bytes? (bytes.flatMap encodeByte) = some bytes := by
  induction bytes with
  | nil => rfl
  | cons b bytes ih =>
    have size : b.toNat < 256 := b.toNat_lt
    have whole : UInt8.ofNat (16 * (b.toNat / 16) + b.toNat % 16) = b := by
      rw [Nat.div_add_mod, UInt8.ofNat_toNat]
    rw [List.flatMap_cons]
    simp only [encodeByte, List.cons_append, List.nil_append, bytes?,
      value?_digit (show b.toNat / 16 < 16 by omega),
      value?_digit (show b.toNat % 16 < 16 by omega),
      ih, Option.bind_eq_bind, Option.bind_some, Option.pure_def, whole]

end Hex

end RemoteQuery.Text
