import RemoteQuery.Proofs.PercentSpelling

/-!
# Percent-decoding

The decoder goes through the bytes once and takes each escape as far as it reaches; it obeys the
laws of spellings, and so does the encoder.
-/
namespace RemoteQuery.Text.Percent

theorem unescapes_unescape (bytes : List UInt8) : Unescapes bytes (unescape bytes) := by
  fun_induction unescape bytes with
  | case1 => exact .nil
  | case2 _ _ _ _ _ second first ih => exact .escape first second ih
  | case3 _ _ _ noDigits ih =>
    refine .other ?_ ih
    rintro ⟨_, _, _, _, _, ⟨⟩, first, second⟩
    exact noDigits _ _ first second
  | case4 _ short ih =>
    refine .other ?_ ih
    rintro ⟨_, _, _, _, _, ⟨⟩, _⟩
    exact short _ _ _ rfl
  | case5 _ _ noSign ih =>
    refine .other ?_ ih
    rintro ⟨_, _, _, _, _, ⟨⟩, _⟩
    exact noSign rfl

/-- Bytes are unescaped in one way. -/
theorem Unescapes.unique {spelled one other : List UInt8} (h : Unescapes spelled one)
    (another : Unescapes spelled other) : one = other := by
  induction h generalizing other with
  | nil =>
    cases another
    rfl
  | escape first second _ ih =>
    cases another with
    | escape firstToo secondToo rest =>
      cases first.symm.trans firstToo
      cases second.symm.trans secondToo
      rw [ih rest]
    | other alone _ => exact (alone ⟨_, _, _, _, _, rfl, first, second⟩).elim
  | other alone _ ih =>
    cases another with
    | escape first second _ => exact (alone ⟨_, _, _, _, _, rfl, first, second⟩).elim
    | other _ rest => rw [ih rest]

theorem unescape_eq_iff {spelled bytes : List UInt8} :
    unescape spelled = bytes ↔ Unescapes spelled bytes := by
  constructor
  · rintro rfl
    exact unescapes_unescape spelled
  · exact (unescapes_unescape spelled).unique

theorem spells_encode (bytes : List UInt8) : Spells bytes (bytes.flatMap escapeByte) := by
  induction bytes with
  | nil => exact .nil
  | cons b bytes ih =>
    have size : b.toNat < 256 := b.toNat_lt
    rw [List.flatMap_cons, escapeByte]
    split
    · rename_i safe
      exact .plain safe ih
    · exact .escaped (Hex.value?_digit (by omega)) (Hex.value?_digit (by omega)) ih

theorem writes_encode (text : String) : Writes text (encode text).toList := by
  rw [encode, String.toList_ofList]
  exact spells_encode _

theorem lawful : Lawful decode encode where
  decode_eq_ok_iff := Utf8.decode_eq_ok_iff.trans unescape_eq_iff
  writes_encode := writes_encode

end RemoteQuery.Text.Percent
