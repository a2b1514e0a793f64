import RemoteQuery.Proofs.SignedNumerals

/-!
# Printed numbers

What a number is printed as, with zeros in front or without, is a numeral of it.
-/
namespace RemoteQuery.Number

theorem digits_repr (n : Nat) :
    (toString n).toList ≠ [] ∧ (∀ c ∈ (toString n).toList, isDigit c = true) ∧
      digitsValue (toString n).toList = n := by
  rw [Nat.toString_eq_repr, Nat.toList_repr]
  refine ⟨Nat.toDigits_ne_nil, ?_, Nat.ofDigitChars_ten_toDigits⟩
  intro c member
  exact isDigit_of_isDigit (Nat.isDigit_of_mem_toDigits (by decide) (by decide) member)

/-- A number with zeros in front, if it is shorter than the width. -/
def padded (width n : Nat) : List Char := (toString n).toList.leftpad width '0'

theorem padded_digits (width n : Nat) :
    padded width n ≠ [] ∧ (∀ c ∈ padded width n, isDigit c = true) ∧
      digitsValue (padded width n) = n := by
  obtain ⟨_, all, value⟩ := digits_repr n
  refine ⟨?_, ?_, ?_⟩
  · simp [padded, List.leftpad]
  · intro c member
    rcases List.mem_append.mp member with zero | digit
    · rw [List.eq_of_mem_replicate zero]
      decide
    · exact all c digit
  · rw [padded, List.leftpad, digitsValue_append, digitsValue_zeros, value, Nat.zero_mul,
      Nat.zero_add]

theorem unsigned_padded (width n : Nat) : Unsigned (padded width n) n := by
  obtain ⟨nonempty, all, value⟩ := padded_digits width n
  exact ⟨[], by simp [signs], _, nonempty, all, rfl, value.symm⟩

theorem signed?_padded (bits width n : Nat) :
    signed? bits (padded width n) = if InSignedRange bits n then some (n : Int) else none := by
  obtain ⟨nonempty, all, value⟩ := padded_digits width n
  have row := digits?_eq_some_iff.mpr ⟨nonempty, all, rfl⟩
  rw [signed?, integer?_of_splitSign (splitSign_digits all), row, value, Option.map_some,
    Option.filter_some]
  simp

theorem length_padded {width n : Nat} (positive : 0 < width) (small : n < 10 ^ width) :
    (padded width n).length = width := by
  have short : (toString n).toList.length ≤ width := by
    rw [Nat.toString_eq_repr, String.length_toList]
    exact (Nat.length_repr_le_iff positive).mpr small
  rw [padded, List.length_leftpad]
  exact Nat.max_eq_left short

example : padded 4 33 = "0033".toList := by decide

theorem signed_toString (number : Int) : Signed (toString number).toList number := by
  obtain ⟨nonempty, all, value⟩ := digits_repr number.natAbs
  cases number with
  | ofNat n =>
    have signed := @Signed.intro false [] _ List.mem_cons_self nonempty all
    rwa [value] at signed
  | negSucc n =>
    have signed := @Signed.intro true ['-'] _ (List.mem_singleton_self _) nonempty all
    rw [value] at signed
    have text : (toString (Int.negSucc n)).toList = ['-'] ++ (toString (n + 1)).toList :=
      String.toList_append
    rw [text]
    exact signed

theorem signed?_toString {bits : Nat} {number : Int} (within : InSignedRange bits number) :
    signed? bits (toString number).toList = some number := by
  rw [signed?, integer?_eq_some_iff.mpr (signed_toString number), Option.filter_some,
    decide_eq_true within, if_pos rfl]

end RemoteQuery.Number
