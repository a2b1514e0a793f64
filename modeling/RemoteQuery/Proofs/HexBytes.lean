import Mathlib.Data.List.Basic
import RemoteQuery.Proofs.Utf8Bytes
import RemoteQuery.Text.Hex

/-!
# Bytes and their hexadecimal texts

A text of bytes has the two digits of each byte in turn, every digit in either case, and white space
of ASCII anywhere, between the digits of a byte too. The reader takes these texts and no others, and
a text is one of at most one row of bytes. The bytes of UTF-8 may be read as characters one by one:
those of a character outside ASCII are neither digits nor white space, just as it is neither.
-/
namespace RemoteQuery.Text.Hex

/-- The digits of either case. -/
def digits : List Char := "0123456789abcdefABCDEF".toList

/-- The text without its white space. -/
def stripped (text : String) : List Char := text.toList.filter (!isSpace ·)

/-- A row of digits in lower case and what may be written for it: each digit in either case, and
white space anywhere. -/
inductive Spaced : List Char → List Char → Prop
  | nil : Spaced [] []
  | space {c : Char} {lower chars : List Char} (blank : isSpace c = true)
      (rest : Spaced lower chars) : Spaced lower (c :: chars)
  | digit {c d : Char} {lower chars : List Char} (same : c.toLower = d)
      (rest : Spaced lower chars) : Spaced (d :: lower) (c :: chars)

/-- The text is one of the bytes. -/
def Writes (bytes : List UInt8) (text : String) : Prop :=
  Spaced (encode bytes).toList text.toList

/-- The bytes of the text in UTF-8, each taken for a character. -/
def byteChars (text : String) : List Char := (Utf8.encode text).map fun b => Char.ofNat b.toNat

theorem mem_digits_iff {c : Char} : c ∈ digits ↔ ∃ n, value? c = some n := by
  constructor
  · intro member
    have each : digits.all (fun c => (value? c).isSome) = true := by decide
    exact Option.isSome_iff_exists.mp (List.all_eq_true.mp each c member)
  · rintro ⟨n, read⟩
    have table : ∀ k : Fin 128, (value? (Char.ofNat k)).isSome = true →
        Char.ofNat k ∈ digits := by decide +kernel
    obtain ⟨k, rfl⟩ := exists_ascii (value?_ascii read)
    exact table k (Option.isSome_of_eq_some read)

theorem isSpace_plain {c : Char} (h : isSpace c = true) : c.toNat < 128 ∧ c.toLower = c := by
  simp only [isSpace, Bool.or_eq_true, beq_iff_eq] at h
  rcases h with (((rfl | rfl) | rfl) | rfl) | rfl <;> decide

theorem isSpace_digit {n : Nat} (small : n < 16) : isSpace (digit n) = false := by
  have table : ∀ k : Fin 16, isSpace (digit k) = false := by decide
  exact table ⟨n, small⟩

theorem isSpace_of_mem_encode {bytes : List UInt8} {c : Char}
    (member : c ∈ (encode bytes).toList) : isSpace c = false := by
  rw [encode, String.toList_ofList] at member
  obtain ⟨b, _, member⟩ := List.mem_flatMap.mp member
  have size : b.toNat < 256 := b.toNat_lt
  rcases List.mem_pair.mp member with rfl | rfl
  · exact isSpace_digit (by omega)
  · exact isSpace_digit (by omega)

theorem not_listed_of_not_ascii {c : Char} (high : ¬ c.toNat < 128) :
    isSpace c = false ∧ c ∉ digits := by
  constructor
  · exact Bool.eq_false_iff.mpr fun blank => high (isSpace_plain blank).1
  · intro member
    obtain ⟨n, read⟩ := mem_digits_iff.mp member
    exact high (value?_ascii read)

/-- Characters are read as the bytes that their lower case writes. -/
theorem bytes?_eq_some_iff {chars : List Char} {bytes : List UInt8} :
    bytes? chars = some bytes ↔ chars.map Char.toLower = bytes.flatMap encodeByte := by
  fun_induction bytes? chars generalizing bytes with
  | case1 => cases bytes <;> simp [encodeByte]
  | case2 c => cases bytes <;> simp [encodeByte]
  | case3 high low rest ih =>
    simp only [Option.bind_eq_bind, Option.bind_eq_some_iff, Option.pure_def, Option.some.injEq]
    constructor
    · rintro ⟨first, readFirst, second, readSecond, bytes, read, rfl⟩
      obtain ⟨firstSmall, firstSame⟩ := value?_eq_some_iff.mp readFirst
      obtain ⟨secondSmall, secondSame⟩ := value?_eq_some_iff.mp readSecond
      have whole : (UInt8.ofNat (16 * first + second)).toNat = 16 * first + second := by
        rw [UInt8.toNat_ofNat', Nat.mod_eq_of_lt (by omega)]
      rw [List.flatMap_cons, encodeByte, whole, show (16 * first + second) / 16 = first by omega,
        show (16 * first + second) % 16 = second by omega, ← firstSame, ← secondSame, ← ih.mp read]
      rfl
    · intro written
      cases bytes with
      | nil => cases written
      | cons b bytes =>
        have size : b.toNat < 256 := b.toNat_lt
        simp only [List.map_cons, List.flatMap_cons, encodeByte, List.cons_append,
          List.nil_append, List.cons.injEq] at written
        obtain ⟨first, second, others⟩ := written
        refine ⟨_, value?_eq_some_iff.mpr ⟨by omega, first⟩, _,
          value?_eq_some_iff.mpr ⟨by omega, second⟩, bytes, ih.mpr others, ?_⟩
        rw [Nat.div_add_mod, UInt8.ofNat_toNat]

theorem exists_bytes?_iff {chars : List Char} :
    (∃ bytes, bytes? chars = some bytes) ↔ 2 ∣ chars.length ∧ ∀ c ∈ chars, c ∈ digits := by
  fun_induction bytes? chars with
  | case1 => simp
  | case2 c => simp
  | case3 high low rest ih =>
    have paired : 2 ∣ (high :: low :: rest).length ↔ 2 ∣ rest.length := by
      rw [List.length_cons, List.length_cons]
      omega
    simp only [paired, List.forall_mem_cons, mem_digits_iff, Option.bind_eq_bind,
      Option.bind_eq_some_iff, Option.pure_def, Option.some.injEq]
    constructor
    · rintro ⟨_, first, readFirst, second, readSecond, bytes, read, rfl⟩
      obtain ⟨even, others⟩ := ih.mp ⟨bytes, read⟩
      exact ⟨even, ⟨first, readFirst⟩, ⟨second, readSecond⟩,
        fun c member => mem_digits_iff.mp (others c member)⟩
    · rintro ⟨even, ⟨first, readFirst⟩, ⟨second, readSecond⟩, others⟩
      obtain ⟨bytes, read⟩ := ih.mpr ⟨even, fun c member => mem_digits_iff.mpr (others c member)⟩
      exact ⟨_, first, readFirst, second, readSecond, bytes, read, rfl⟩

theorem Spaced.map_filter {lower chars : List Char} (h : Spaced lower chars)
    (solid : ∀ c ∈ lower, isSpace c = false) :
    (chars.filter (!isSpace ·)).map Char.toLower = lower := by
  induction h with
  | nil => rfl
  | space blank _ ih =>
    rw [List.filter_cons_of_neg (by rw [blank]; decide)]
    exact ih solid
  | @digit c _ _ _ same _ ih =>
    obtain ⟨here, others⟩ := List.forall_mem_cons.mp solid
    have plain : isSpace c = false := by
      cases blank : isSpace c with
      | false => rfl
      | true => rwa [← same, (isSpace_plain blank).2, blank] at here
    rw [List.filter_cons_of_pos (by rw [plain]; rfl), List.map_cons, same, ih others]

theorem spaced_filter (chars : List Char) :
    Spaced ((chars.filter (!isSpace ·)).map Char.toLower) chars := by
  induction chars with
  | nil => exact .nil
  | cons c chars ih =>
    cases blank : isSpace c with
    | true =>
      rw [List.filter_cons_of_neg (by rw [blank]; decide)]
      exact .space blank ih
    | false =>
      rw [List.filter_cons_of_pos (by rw [blank]; rfl)]
      exact .digit rfl ih

theorem writes_iff {bytes : List UInt8} {text : String} :
    Writes bytes text ↔ (encode bytes).toList = (stripped text).map Char.toLower := by
  constructor
  · intro written
    exact (written.map_filter fun _ => isSpace_of_mem_encode).symm
  · intro same
    rw [Writes, same]
    exact spaced_filter text.toList

theorem decode?_eq_some_iff {text : String} {bytes : List UInt8} :
    decode? text = some bytes ↔ Writes bytes text := by
  rw [writes_iff, encode, String.toList_ofList]
  exact bytes?_eq_some_iff.trans eq_comm

theorem writes_encode (bytes : List UInt8) : Writes bytes (encode bytes) := by
  rw [← decode?_eq_some_iff, decode?]
  have whole : (encode bytes).toList.filter (!isSpace ·) = (encode bytes).toList := by
    refine List.filter_eq_self.mpr ?_
    intro c member
    rw [isSpace_of_mem_encode member]
    rfl
  rw [whole, encode, String.toList_ofList, bytes?_encode]

theorem bytes?_eq_none_of_mem {chars : List Char} {c : Char} (member : c ∈ chars)
    (solid : isSpace c = false) (other : c ∉ digits) :
    bytes? (chars.filter (!isSpace ·)) = none := by
  refine Option.eq_none_iff_forall_ne_some.mpr ?_
  intro bytes read
  have kept : c ∈ chars.filter (!isSpace ·) := List.mem_filter.mpr ⟨member, by rw [solid]; rfl⟩
  exact other ((exists_bytes?_iff.mp ⟨bytes, read⟩).2 c kept)

theorem byteChars_of_ascii {text : String} (ascii : ∀ c ∈ text.toList, c.toNat < 128) :
    byteChars text = text.toList := by
  have bytes := Utf8.encode_ofList_of_ascii ascii
  rw [String.ofList_toList] at bytes
  rw [byteChars, bytes, List.map_map]
  refine (List.map_congr_left ?_).trans (List.map_id _)
  intro c member
  rw [Function.comp_apply, Utf8.toNat_byte (ascii c member), Char.ofNat_toNat, id_eq]

/-- If no byte of a text is above 127, then neither is a character. -/
theorem byteChars_eq_of_ascii {text : String} (ascii : ∀ c ∈ byteChars text, c.toNat < 128) :
    byteChars text = text.toList := by
  have code (b : UInt8) : (Char.ofNat b.toNat).toNat = b.toNat := by
    have size : b.toNat < 256 := b.toNat_lt
    rw [Char.ofNat, dif_pos (.inl (by omega))]
    rfl
  have bytes : Utf8.encode (String.ofList (byteChars text)) = Utf8.encode text := by
    rw [Utf8.encode_ofList_of_ascii ascii, byteChars, List.map_map]
    refine (List.map_congr_left ?_).trans (List.map_id _)
    intro b _
    rw [Function.comp_apply, code, UInt8.ofNat_toNat, id_eq]
  have same : String.ofList (byteChars text) = text := by
    have read := Utf8.decode_encode (String.ofList (byteChars text))
    rw [bytes, Utf8.decode_encode] at read
    exact (Except.ok.inj read).symm
  rw [← same, String.toList_ofList, same]

theorem bytes?_of_not_ascii {chars : List Char} (wide : ¬ ∀ c ∈ chars, c.toNat < 128) :
    bytes? (chars.filter (!isSpace ·)) = none := by
  obtain ⟨c, member, high⟩ : ∃ c ∈ chars, ¬ c.toNat < 128 := by
    simpa only [not_forall, exists_prop] using wide
  obtain ⟨solid, other⟩ := not_listed_of_not_ascii high
  exact bytes?_eq_none_of_mem member solid other

theorem bytes?_byteChars (text : String) :
    bytes? ((byteChars text).filter (!isSpace ·)) = decode? text := by
  by_cases ascii : ∀ c ∈ byteChars text, c.toNat < 128
  · rw [byteChars_eq_of_ascii ascii, decode?]
  · have wide : ¬ ∀ c ∈ text.toList, c.toNat < 128 := by
      intro plain
      rw [byteChars_of_ascii plain] at ascii
      exact ascii plain
    rw [decode?, bytes?_of_not_ascii ascii, bytes?_of_not_ascii wide]

/-- A text is read just when it has, white space apart, an even number of digits and nothing else,
and then it is a text of the bytes that are read and of no others. To read the bytes of the text
instead of its characters makes no difference. -/
theorem decode?_inverts_encode (text : String) :
    ((∃ bytes, decode? text = some bytes) ↔
      2 ∣ (stripped text).length ∧ ∀ c ∈ stripped text, c ∈ digits) ∧
    (∀ bytes, decode? text = some bytes →
      (encode bytes).toList = (stripped text).map Char.toLower) ∧
    (∀ bytes, decode? text = some bytes ↔ Writes bytes text) ∧
    (∀ c ∈ text.toList, isSpace c = false → c ∉ digits → decode? text = none) ∧
    bytes? ((byteChars text).filter (!isSpace ·)) = decode? text := by
  refine ⟨exists_bytes?_iff, ?_, fun bytes => decode?_eq_some_iff, ?_, bytes?_byteChars text⟩
  · intro bytes read
    exact writes_iff.mp (decode?_eq_some_iff.mp read)
  · intro c member solid other
    exact bytes?_eq_none_of_mem member solid other

/-- Both cases in one byte and white space before, inside and behind the bytes; and a character of
two bytes, which are no pair of digits. -/
theorem decode?_inverts_encode_mixed :
    Writes [0x0f, 0xab] " 0F\ta\nB\x0d" ∧ decode? " 0F\ta\nB\x0d" = some [0x0f, 0xab] ∧
      (encode [0x0f, 0xab]).toList = (stripped " 0F\ta\nB\x0d").map Char.toLower ∧
      'é' ∈ "é".toList ∧ isSpace 'é' = false ∧ 'é' ∉ digits ∧ decode? "é" = none := by
  obtain ⟨_, lower, reads, _⟩ := decode?_inverts_encode " 0F\ta\nB\x0d"
  obtain ⟨_, _, _, refuses, _⟩ := decode?_inverts_encode "é"
  have read : decode? " 0F\ta\nB\x0d" = some [0x0f, 0xab] := by decide
  have member : 'é' ∈ "é".toList := List.mem_singleton.mpr rfl
  have other : 'é' ∉ digits := by decide
  exact ⟨(reads _).mp read, read, lower _ read, member, rfl, other, refuses _ member rfl other⟩

end RemoteQuery.Text.Hex
