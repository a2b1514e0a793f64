import RemoteQuery.Proofs.Utf8Bytes
import RemoteQuery.Text.Blank
import RemoteQuery.Text.Percent

/-!
# Percent-encoded spellings

The bytes of a text may be spelled in several ways: an unreserved byte stands for itself or is
escaped, and escapes take digits of either case. What is asked of a decoder and an encoder is said
by these spellings and by what escapes stand for. By these laws all the spellings of a text are
decoded to it; and the characters of a spelling have no other meaning around it.
-/
namespace RemoteQuery.Text.Percent

/-- A byte is spelled by its character, if that is unreserved, or by its two digits. -/
inductive Spells : List UInt8 → List Char → Prop
  | nil : Spells [] []
  | plain {b : UInt8} {bytes : List UInt8} {chars : List Char} (safe : isUnreserved b = true)
      (rest : Spells bytes chars) : Spells (b :: bytes) (Char.ofNat b.toNat :: chars)
  | escaped {b : UInt8} {high low : Char} {bytes : List UInt8} {chars : List Char}
      (first : Hex.value? high = some (b.toNat / 16))
      (second : Hex.value? low = some (b.toNat % 16)) (rest : Spells bytes chars) :
      Spells (b :: bytes) ('%' :: high :: low :: chars)

/-- A spelling of a text is one of its bytes. -/
def Writes (text : String) (chars : List Char) : Prop := Spells (Utf8.encode text) chars

/-- The bytes begin with a percent sign and two digits. -/
def StartsEscape (bytes : List UInt8) : Prop :=
  ∃ high low tail x y, bytes = sign :: high :: low :: tail ∧ hexValue? high = some x ∧
    hexValue? low = some y

/-- A percent sign and two digits stand for a byte, and any other byte for itself. -/
inductive Unescapes : List UInt8 → List UInt8 → Prop
  | nil : Unescapes [] []
  | escape {high low : UInt8} {x y : Nat} {spelled bytes : List UInt8}
      (first : hexValue? high = some x) (second : hexValue? low = some y)
      (rest : Unescapes spelled bytes) :
      Unescapes (sign :: high :: low :: spelled) (UInt8.ofNat (16 * x + y) :: bytes)
  | other {b : UInt8} {spelled bytes : List UInt8} (alone : ¬ StartsEscape (b :: spelled))
      (rest : Unescapes spelled bytes) : Unescapes (b :: spelled) (b :: bytes)

/-- The laws of a decoder and an encoder: escapes are replaced by their bytes, all else is left as
it is, and the outcome must be the bytes of a text; what is encoded is a spelling of its text. -/
structure Lawful (decode : List Char → Except Utf8.Fault String) (encode : String → String) :
    Prop where
  decode_eq_ok_iff {chars : List Char} {text : String} :
    decode chars = .ok text ↔ Unescapes (Utf8.encode (String.ofList chars)) (Utf8.encode text)
  writes_encode (text : String) : Writes text (encode text).toList

/-- The characters that spellings are made of. -/
def isSpelling (c : Char) : Bool := c == '%' || isUnreserved (UInt8.ofNat c.toNat) && c.toNat < 128

theorem isSpelling_ascii {c : Char} (h : isSpelling c = true) : c.toNat < 128 := by
  simp only [isSpelling, Bool.or_eq_true, beq_iff_eq, Bool.and_eq_true, decide_eq_true_eq] at h
  rcases h with rfl | ⟨_, small⟩
  · decide
  · exact small

/-- No blank and no separator is among them. -/
theorem isSpelling_plain {c : Char} (h : isSpelling c = true) :
    isBlank c = false ∧ c ∉ ['?', '/', '&', '='] := by
  have table : ∀ n : Fin 128, isSpelling (Char.ofNat n) = true →
      isBlank (Char.ofNat n) = false ∧ Char.ofNat n ∉ ['?', '/', '&', '='] := by decide
  obtain ⟨n, rfl⟩ := exists_ascii (isSpelling_ascii h)
  exact table n h

theorem isUnreserved_ascii {b : UInt8} (h : isUnreserved b = true) : b.toNat < 128 ∧ b ≠ sign := by
  have table : ∀ n : Fin 256, isUnreserved (UInt8.ofNat n) = true →
      (UInt8.ofNat n).toNat < 128 ∧ UInt8.ofNat n ≠ sign := by decide +kernel
  have here := table ⟨b.toNat, b.toNat_lt⟩
  simp only [UInt8.ofNat_toNat] at here
  exact here h

theorem ofNat_ascii {n : Nat} (h : n < 128) : (Char.ofNat n).toNat = n := by
  have table : ∀ n : Fin 128, (Char.ofNat n).toNat = n := by decide
  exact table ⟨n, h⟩

theorem isSpelling_ofNat {b : UInt8} (safe : isUnreserved b = true) :
    isSpelling (Char.ofNat b.toNat) = true := by
  have small := (isUnreserved_ascii safe).1
  simp only [isSpelling, ofNat_ascii small, UInt8.ofNat_toNat, safe, small, decide_true,
    Bool.and_self, Bool.or_true]

theorem isSpelling_of_value? {c : Char} {n : Nat} (h : Hex.value? c = some n) :
    isSpelling c = true := by
  have table : ∀ n : Fin 128, (Hex.value? (Char.ofNat n)).isSome = true →
      isSpelling (Char.ofNat n) = true := by decide
  obtain ⟨k, rfl⟩ := exists_ascii (Hex.value?_ascii h)
  exact table k (Option.isSome_of_eq_some h)

theorem Spells.isSpelling {bytes : List UInt8} {chars : List Char} (h : Spells bytes chars) :
    ∀ c ∈ chars, isSpelling c = true := by
  induction h with
  | nil => nofun
  | plain safe _ ih => exact List.forall_mem_cons.mpr ⟨isSpelling_ofNat safe, ih⟩
  | escaped first second _ ih =>
    refine List.forall_mem_cons.mpr ⟨by decide, List.forall_mem_cons.mpr ⟨?_, ?_⟩⟩
    · exact isSpelling_of_value? first
    · exact List.forall_mem_cons.mpr ⟨isSpelling_of_value? second, ih⟩

/-- Unreserved characters are written as they are. -/
theorem writes_unreserved {text : String}
    (safe : ∀ c ∈ text.toList, isUnreserved (UInt8.ofNat c.toNat) = true ∧ c.toNat < 128) :
    Writes text text.toList := by
  have spells {chars : List Char}
      (safe : ∀ c ∈ chars, isUnreserved (UInt8.ofNat c.toNat) = true ∧ c.toNat < 128) :
      Spells (chars.map fun c => UInt8.ofNat c.toNat) chars := by
    induction chars with
    | nil => exact .nil
    | cons c chars ih =>
      obtain ⟨⟨here, small⟩, rest⟩ := List.forall_mem_cons.mp safe
      have spelled := Spells.plain here (ih rest)
      rwa [Utf8.toNat_byte small, Char.ofNat_toNat] at spelled
  have bytes := Utf8.encode_ofList_of_ascii fun c member => (safe c member).2
  rw [String.ofList_toList] at bytes
  rw [Writes, bytes]
  exact spells safe

theorem hexValue?_ofNat {c : Char} {n : Nat} (h : Hex.value? c = some n) :
    hexValue? (UInt8.ofNat c.toNat) = some n := by
  rw [hexValue?, Utf8.toNat_byte (Hex.value?_ascii h), Char.ofNat_toNat, h]

theorem Spells.unescapes {bytes : List UInt8} {chars : List Char} (h : Spells bytes chars) :
    Unescapes (chars.map fun c => UInt8.ofNat c.toNat) bytes := by
  induction h with
  | nil => exact .nil
  | @plain b bytes chars safe _ ih =>
    obtain ⟨small, other⟩ := isUnreserved_ascii safe
    rw [List.map_cons, ofNat_ascii small, UInt8.ofNat_toNat]
    refine .other ?_ ih
    rintro ⟨_, _, _, _, _, same, _⟩
    exact other (List.cons.inj same).1
  | @escaped b high low bytes chars first second _ ih =>
    have whole : 16 * (b.toNat / 16) + b.toNat % 16 = b.toNat := Nat.div_add_mod _ _
    have unescaped := Unescapes.escape (hexValue?_ofNat first) (hexValue?_ofNat second) ih
    rwa [whole, UInt8.ofNat_toNat] at unescaped

section Laws

variable {decode : List Char → Except Utf8.Fault String} {encode : String → String}
  {text : String} {chars : List Char}

/-- Every spelling of a text is decoded to it. -/
theorem Lawful.decode_of_writes (laws : Lawful decode encode) (h : Writes text chars) :
    decode chars = .ok text := by
  have ascii : ∀ c ∈ chars, c.toNat < 128 := fun c member =>
    isSpelling_ascii (h.isSpelling c member)
  rw [laws.decode_eq_ok_iff, Utf8.encode_ofList_of_ascii ascii]
  exact h.unescapes

theorem Writes.ne_nil (h : Writes text chars) (nonempty : text ≠ "") : chars ≠ [] := by
  rintro rfl
  have characters : text.toList ≠ [] := fun none => nonempty (String.toList_eq_nil_iff.mp none)
  have bytes := Utf8.encode_ne_nil characters
  rw [String.ofList_toList] at bytes
  cases spelled : Utf8.encode text with
  | nil => exact bytes spelled
  | cons b rest =>
    rw [Writes, spelled] at h
    cases h

/-- No spelling, sound or not, is decoded to nothing unless it is nothing. -/
theorem Lawful.ne_empty_of_decode (laws : Lawful decode encode) (h : decode chars = .ok text)
    (nonempty : chars ≠ []) : text ≠ "" := by
  rintro rfl
  have unescapes := laws.decode_eq_ok_iff.mp h
  have bytes := Utf8.encode_ne_nil nonempty
  cases spelled : Utf8.encode (String.ofList chars) with
  | nil => exact bytes spelled
  | cons b rest =>
    rw [spelled] at unescapes
    cases unescapes

end Laws

end RemoteQuery.Text.Percent
