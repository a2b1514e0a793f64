import Mathlib.Data.List.Nodup
import RemoteQuery.Connection.SessionLabel
import RemoteQuery.Proofs.Utf8Bytes
import RemoteQuery.Text.Hex

/-!
# Labels of sessions

The identity service accepts labels of two to sixty-four characters of ASCII, letters, digits and a
few marks. A name that is a label is left as it is, and any other is made into one. What is sent is
the start of it, a hyphen and eight random digits, which is always a label; the start is short
enough that the digits are never cut, so labels with different digits differ, whatever the names
are.
-/
namespace RemoteQuery

namespace SessionLabel

def alphabet : List Char :=
  "ABCDEFGHIJKLMNOPQRSTUVWXYZabcdefghijklmnopqrstuvwxyz0123456789+=,.@_-".toList

/-- What the identity service accepts. -/
structure IsLabel (label : String) : Prop where
  atLeast : 2 ≤ label.utf8ByteSize
  atMost : label.utf8ByteSize ≤ 64
  allowed : ∀ c ∈ label.toList, c ∈ alphabet

/-- Eight hexadecimal digits in lower case. -/
structure IsRandomEnd (suffix : String) : Prop where
  length : suffix.length = 8
  digits : ∀ c ∈ suffix.toList, c ∈ "0123456789abcdef".toList

theorem isRandomEnd_iff {suffix : String} :
    IsRandomEnd suffix ↔ suffix.length = 8 ∧
      (suffix.toList.all fun c => decide (c ∈ "0123456789abcdef".toList)) = true := by
  simp only [List.all_eq_true, decide_eq_true_eq]
  constructor
  · intro random
    exact ⟨random.length, random.digits⟩
  · rintro ⟨length, digits⟩
    exact ⟨length, digits⟩

instance (suffix : String) : Decidable (IsRandomEnd suffix) :=
  decidable_of_iff _ isRandomEnd_iff.symm

theorem ascii_of_isAlphanum {c : Char} (h : c.isAlphanum = true) : c.toNat < 128 := by
  have last : c.val ≤ 'z'.val := by
    rcases Bool.or_eq_true_iff.mp h with letter | digit
    · rcases Bool.or_eq_true_iff.mp letter with upper | lower
      · exact UInt32.le_trans (of_decide_eq_true upper).2 (by decide)
      · exact of_decide_eq_true (Bool.and_eq_true_iff.mp lower).2
    · exact UInt32.le_trans (of_decide_eq_true (Bool.and_eq_true_iff.mp digit).2) (by decide)
  have code : c.toNat ≤ 'z'.toNat := last
  exact Nat.lt_of_le_of_lt code (by decide)

theorem ascii_of_isAllowed {c : Char} (h : isAllowed c = true) : c.toNat < 128 := by
  simp only [isAllowed, Bool.or_eq_true, List.contains_iff_mem] at h
  rcases h with letter | mark
  · exact ascii_of_isAlphanum letter
  · have each : ("+=,.@_-".toList.all fun c => decide (c.toNat < 128)) = true := by decide
    exact decide_eq_true_eq.mp (List.all_eq_true.mp each c mark)

theorem isAllowed_iff {c : Char} : isAllowed c = true ↔ c ∈ alphabet := by
  constructor
  · intro h
    have table : ∀ n : Fin 128, isAllowed (Char.ofNat n) = true → Char.ofNat n ∈ alphabet := by
      decide +kernel
    obtain ⟨n, rfl⟩ := Text.exists_ascii (ascii_of_isAllowed h)
    exact table n h
  · intro member
    have each : alphabet.all isAllowed = true := by decide +kernel
    exact List.all_eq_true.mp each c member

theorem utf8ByteSize_of_ascii {text : String} (ascii : ∀ c ∈ text.toList, c.toNat < 128) :
    text.utf8ByteSize = text.length := by
  have bytes := Text.Utf8.encode_ofList_of_ascii ascii
  rw [String.ofList_toList] at bytes
  calc
    text.utf8ByteSize = (Text.Utf8.encode text).length := by simp [Text.Utf8.encode]
    _ = text.length := by rw [bytes, List.length_map, String.length_toList]

theorem utf8ByteSize_of_allowed {text : String} (allowed : ∀ c ∈ text.toList, c ∈ alphabet) :
    text.utf8ByteSize = text.length :=
  utf8ByteSize_of_ascii fun c member => ascii_of_isAllowed (isAllowed_iff.mpr (allowed c member))

theorem isLabel_ofList {chars : List Char} :
    IsLabel (String.ofList chars) ↔
      (∀ c ∈ chars, c ∈ alphabet) ∧ 2 ≤ chars.length ∧ chars.length ≤ 64 := by
  have size (allowed : ∀ c ∈ chars, c ∈ alphabet) :
      (String.ofList chars).utf8ByteSize = chars.length := by
    rw [utf8ByteSize_of_allowed (by rwa [String.toList_ofList]), String.length_ofList]
  constructor
  · rintro ⟨atLeast, atMost, allowed⟩
    rw [String.toList_ofList] at allowed
    rw [size allowed] at atLeast atMost
    exact ⟨allowed, atLeast, atMost⟩
  · rintro ⟨allowed, atLeast, atMost⟩
    refine ⟨?_, ?_, ?_⟩
    · rwa [size allowed]
    · rwa [size allowed]
    · rwa [String.toList_ofList]

theorem length_sanitizedChars (name : List Char) :
    (sanitizedChars name).length = max 2 (min 64 name.length) := by
  simp only [sanitizedChars, maxLength, minLength, List.length_append, List.length_map,
    List.length_take, List.length_replicate]
  omega

theorem mem_alphabet_of_mem_sanitizedChars {name : List Char} {c : Char}
    (member : c ∈ sanitizedChars name) : c ∈ alphabet := by
  have hyphen : '-' ∈ alphabet := by decide
  rcases List.mem_append.mp member with kept | filled
  · obtain ⟨d, _, rfl⟩ := List.mem_map.mp kept
    split
    · rename_i allowed
      exact isAllowed_iff.mp allowed
    · exact hyphen
  · rw [List.eq_of_mem_replicate filled]
    exact hyphen

theorem sanitizedChars_eq_self {name : List Char} (allowed : ∀ c ∈ name, c ∈ alphabet)
    (atLeast : 2 ≤ name.length) (atMost : name.length ≤ 64) : sanitizedChars name = name := by
  have whole : name.take maxLength = name := List.take_of_length_le atMost
  have kept : name.map (fun c => if isAllowed c then c else '-') = name := by
    refine (List.map_congr_left ?_).trans (List.map_id name)
    intro c member
    rw [if_pos (isAllowed_iff.mpr (allowed c member)), id_eq]
  have full : minLength - name.length = 0 := Nat.sub_eq_zero_of_le atLeast
  rw [sanitizedChars]
  simp only [whole, kept, full, List.replicate_zero, List.append_nil]

theorem isLabel_sanitize (name : String) : IsLabel (sanitize name) := by
  refine isLabel_ofList.mpr ⟨fun c => mem_alphabet_of_mem_sanitizedChars, ?_, ?_⟩
  · rw [length_sanitizedChars]
    omega
  · rw [length_sanitizedChars]
    omega

theorem sanitize_eq_self_iff {name : String} : sanitize name = name ↔ IsLabel name := by
  constructor
  · intro same
    rw [← same]
    exact isLabel_sanitize name
  · intro label
    rw [← String.ofList_toList (s := name)] at label
    obtain ⟨allowed, atLeast, atMost⟩ := isLabel_ofList.mp label
    rw [sanitize, sanitizedChars_eq_self allowed atLeast atMost, String.ofList_toList]

theorem toList_make (name suffix : String) :
    (make name suffix).toList = (sanitize name).toList.take 55 ++ '-' :: suffix.toList := by
  simp [make, base, sanitize, maxLength, suffixLength]

section RandomEnd

variable {name suffix : String} (random : IsRandomEnd suffix)

include random

theorem allowed_make : ∀ c ∈ (make name suffix).toList, c ∈ alphabet := by
  have digits : ("0123456789abcdef".toList.all fun c => decide (c ∈ alphabet)) = true := by decide
  rw [toList_make]
  intro c member
  rcases List.mem_append.mp member with kept | added
  · exact (isLabel_sanitize name).allowed c (List.mem_of_mem_take kept)
  · rcases List.mem_cons.mp added with rfl | digit
    · decide
    · exact decide_eq_true_eq.mp (List.all_eq_true.mp digits c (random.digits c digit))

theorem utf8ByteSize_make :
    (make name suffix).utf8ByteSize = min 55 (sanitize name).length + 9 := by
  rw [utf8ByteSize_of_allowed (allowed_make random), ← String.length_toList, toList_make,
    List.length_append, List.length_take, List.length_cons, String.length_toList,
    String.length_toList, random.length]

theorem bounds_make :
    11 ≤ (make name suffix).utf8ByteSize ∧ (make name suffix).utf8ByteSize ≤ 64 := by
  have atLeast := (isLabel_sanitize name).atLeast
  rw [utf8ByteSize_of_allowed (isLabel_sanitize name).allowed] at atLeast
  rw [utf8ByteSize_make random]
  omega

theorem isLabel_make : IsLabel (make name suffix) where
  atLeast := Nat.le_trans (by decide) (bounds_make random).1
  atMost := (bounds_make random).2
  allowed := allowed_make random

/-- The random end of a label can be read off it. -/
theorem suffix_of_make {other ending : String} (alsoRandom : IsRandomEnd ending)
    (same : make name suffix = make other ending) : suffix = ending := by
  have lists := congrArg String.toList same
  rw [toList_make, toList_make] at lists
  have lengths : ('-' :: suffix.toList).length = ('-' :: ending.toList).length := by
    rw [List.length_cons, List.length_cons, String.length_toList, String.length_toList,
      random.length, alsoRandom.length]
  have ends := List.append_inj_right' lists lengths
  exact String.toList_injective (List.cons.inj ends).2

end RandomEnd

/-- Names are made into labels, and labels are left as they are. With a random end there are eleven
to sixty-four bytes of the same characters: the start of the sanitized name, a hyphen and the end,
which tells any two such labels apart. -/
theorem labels_acceptable (name : String) :
    IsLabel (sanitize name) ∧ (sanitize name = name ↔ IsLabel name) ∧
    sanitize (sanitize name) = sanitize name ∧
    ∀ suffix, IsRandomEnd suffix →
      IsLabel (make name suffix) ∧ 11 ≤ (make name suffix).utf8ByteSize ∧
      (make name suffix).utf8ByteSize = min 55 (sanitize name).length + 9 ∧
      (make name suffix).toList =
        (sanitize name).toList.take (min 55 (sanitize name).length) ++ '-' :: suffix.toList ∧
      ∀ other ending, IsRandomEnd ending → make name suffix = make other ending →
        suffix = ending := by
  have label := isLabel_sanitize name
  refine ⟨label, sanitize_eq_self_iff, sanitize_eq_self_iff.mpr label, ?_⟩
  intro suffix random
  refine ⟨isLabel_make random, (bounds_make random).1, utf8ByteSize_make random, ?_, ?_⟩
  · rw [toList_make, ← String.length_toList, List.take_eq_take_min]
  · intro other ending alsoRandom
    exact suffix_of_make random alsoRandom

/-- A name that is too long, whose characters are no letters of ASCII and have two bytes each. -/
theorem labels_acceptable_long :
    IsRandomEnd "00c0ffee" ∧ IsRandomEnd "00c0ffef" ∧
      (make (String.ofList (List.replicate 200 'é')) "00c0ffee").utf8ByteSize = 64 ∧
      make (String.ofList (List.replicate 200 'é')) "00c0ffee" ≠
        make (String.ofList (List.replicate 200 'é')) "00c0ffef" := by
  have first : IsRandomEnd "00c0ffee" := by decide
  have second : IsRandomEnd "00c0ffef" := by decide
  obtain ⟨_, _, _, made⟩ := labels_acceptable (String.ofList (List.replicate 200 'é'))
  obtain ⟨_, _, size, _, apart⟩ := made _ first
  have cut : (sanitize (String.ofList (List.replicate 200 'é'))).length = 64 := by
    rw [sanitize, String.length_ofList, length_sanitizedChars, String.toList_ofList,
      List.length_replicate]
    decide
  refine ⟨first, second, by rw [size, cut]; decide, ?_⟩
  intro same
  exact absurd (apart _ _ second same) (by decide)

end SessionLabel

end RemoteQuery
