import RemoteQuery.Text.Utf8

/-!
# Bytes of texts

A text of ASCII has one byte for each character, and the bytes that are read as a text are just
those of the text.
-/
namespace RemoteQuery.Text.Utf8

theorem encode_ofList_of_ascii {chars : List Char} (h : ∀ c ∈ chars, c.toNat < 128) :
    encode (String.ofList chars) = chars.map fun c => UInt8.ofNat c.toNat := by
  have bytes : chars.flatMap String.utf8EncodeChar = chars.map fun c => UInt8.ofNat c.toNat := by
    induction chars with
    | nil => rfl
    | cons c chars ih =>
      have small : c.val.toNat ≤ 0x7f := Nat.le_of_lt_succ (h c List.mem_cons_self)
      rw [List.flatMap_cons, String.utf8EncodeChar, List.map_cons]
      simp only [if_pos small, List.singleton_append, List.cons.injEq]
      exact ⟨rfl, ih fun c member => h c (List.mem_cons_of_mem _ member)⟩
  simp only [encode, String.toUTF8_eq_toByteArray, String.toByteArray_ofList, List.utf8Encode,
    bytes, List.data_toByteArray, List.toList_toArray]

theorem toNat_byte {c : Char} (ascii : c.toNat < 128) :
    (UInt8.ofNat c.toNat).toNat = c.toNat := by
  rw [UInt8.toNat_ofNat', Nat.mod_eq_of_lt (by omega)]

/-- Bytes that are read as a text are the bytes of the text. -/
theorem encode_of_decode {bytes : List UInt8} {text : String}
    (h : decode bytes = .ok text) : encode text = bytes := by
  rw [decode] at h
  split at h
  · rename_i found
    cases h
    rw [String.fromUTF8?] at found
    split at found
    · cases found
      simp [encode, String.fromUTF8]
    · cases found
  · cases h

theorem decode_eq_ok_iff {bytes : List UInt8} {text : String} :
    decode bytes = .ok text ↔ bytes = encode text := by
  constructor
  · exact fun read => (encode_of_decode read).symm
  · rintro rfl
    exact decode_encode text

theorem encode_ne_nil {chars : List Char} (nonempty : chars ≠ []) :
    encode (String.ofList chars) ≠ [] := by
  intro none
  have read := decode_encode (String.ofList chars)
  rw [none] at read
  have same : "" = String.ofList chars := Except.ok.inj read
  exact nonempty (String.ofList_eq_empty_iff.mp same.symm)

end RemoteQuery.Text.Utf8
