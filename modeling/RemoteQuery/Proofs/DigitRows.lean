import Mathlib.Data.Nat.Digits.Lemmas
import RemoteQuery.Number.Numeral
import RemoteQuery.Text.Blank

/-!
# Rows of digits

The value of a row of digits is read from its places: a row in front of another counts as many
powers of ten as the other is long. So a row of digits without leading zeros is short just when its
value is small.
-/
namespace RemoteQuery.Number

theorem isDigit_iff {c : Char} : isDigit c = true ↔ 48 ≤ c.toNat ∧ c.toNat ≤ 57 := by
  simp only [isDigit, Bool.and_eq_true, decide_eq_true_eq]
  rfl

theorem isDigit_of_isDigit {c : Char} (h : c.isDigit = true) : isDigit c = true := by
  simp only [Char.isDigit, Bool.and_eq_true, decide_eq_true_eq] at h
  exact isDigit_iff.mpr h

theorem not_isDigit {c d : Char} (digit : isDigit c = true) (other : isDigit d = false) :
    c ≠ d := by
  rintro rfl
  rw [digit] at other
  cases other

theorem digitValue_le {c : Char} (h : isDigit c = true) : digitValue c ≤ 9 := by
  obtain ⟨_, most⟩ := isDigit_iff.mp h
  change c.toNat - 48 ≤ 9
  omega

theorem digitValue_eq_zero_iff {c : Char} (h : isDigit c = true) : digitValue c = 0 ↔ c = '0' := by
  obtain ⟨least, _⟩ := isDigit_iff.mp h
  change c.toNat - 48 = 0 ↔ _
  constructor
  · intro zero
    have same : c.toNat = '0'.toNat := by
      change c.toNat = 48
      omega
    exact Char.toNat_inj.mp same
  · rintro rfl
    rfl

/-- A row of digits counts its places from the end. -/
theorem digitsValue_eq_ofDigits (digits : List Char) :
    digitsValue digits = Nat.ofDigits 10 (digits.reverse.map digitValue) := by
  induction digits using List.reverseRecOn with
  | nil => rfl
  | append_singleton digits c ih =>
    rw [digitsValue, List.foldl_append] at *
    simp only [List.foldl_cons, List.foldl_nil, ih, List.reverse_append, List.reverse_singleton,
      List.singleton_append, List.map_cons, Nat.ofDigits_cons]
    exact Nat.add_comm _ _

theorem digitsValue_append (digits more : List Char) :
    digitsValue (digits ++ more) = digitsValue digits * 10 ^ more.length + digitsValue more := by
  simp only [digitsValue_eq_ofDigits, List.reverse_append, List.map_append, Nat.ofDigits_append,
    List.length_map, List.length_reverse]
  rw [Nat.add_comm, Nat.mul_comm]

theorem digitsValue_lt {digits : List Char} (all : ∀ c ∈ digits, isDigit c = true) :
    digitsValue digits < 10 ^ digits.length := by
  rw [digitsValue_eq_ofDigits]
  have bound : ∀ digit ∈ digits.reverse.map digitValue, digit < 10 := by
    intro digit member
    obtain ⟨c, listed, rfl⟩ := List.mem_map.mp member
    exact Nat.lt_succ_of_le (digitValue_le (all c (List.mem_reverse.mp listed)))
  have less := Nat.ofDigits_lt_base_pow_length (by decide : 1 < 10) bound
  rwa [List.length_map, List.length_reverse] at less

theorem digitsValue_zeros (count : Nat) : digitsValue (List.replicate count '0') = 0 := by
  induction count with
  | zero => rfl
  | succ count ih =>
    rw [List.replicate_succ', digitsValue_append, ih]
    rfl

theorem digitsValue_cons (c : Char) (digits : List Char) :
    digitsValue (c :: digits) = digitValue c * 10 ^ digits.length + digitsValue digits := by
  have value : digitsValue [c] = digitValue c := by
    rw [digitsValue, List.foldl_cons, List.foldl_nil, Nat.mul_zero, Nat.zero_add]
  rw [← List.singleton_append, digitsValue_append, value]

/-- Zeros in front count nothing. -/
theorem digitsValue_significant (digits : List Char) :
    digitsValue (digits.dropWhile (· == '0')) = digitsValue digits := by
  induction digits with
  | nil => rfl
  | cons c digits ih =>
    by_cases zero : c = '0'
    · subst zero
      have value : digitValue '0' = 0 := rfl
      rw [List.dropWhile_cons_of_pos (by decide), ih, digitsValue_cons, value, Nat.zero_mul,
        Nat.zero_add]
    · rw [List.dropWhile_cons_of_neg (by simpa using zero)]

/-- A row without zeros in front is short just when its value is small. -/
theorem length_significant_le_iff {digits : List Char} (all : ∀ c ∈ digits, isDigit c = true)
    (count : Nat) :
    (digits.dropWhile (· == '0')).length ≤ count ↔ digitsValue digits < 10 ^ count := by
  rw [← digitsValue_significant]
  have every : ∀ c ∈ digits.dropWhile (· == '0'), isDigit c = true :=
    fun c member => all c ((List.dropWhile_sublist _).subset member)
  have first : ∀ c, (digits.dropWhile (· == '0')).head? = some c → c ≠ '0' := by
    intro c found
    have last := List.head?_dropWhile_not (· == '0') digits
    rw [found] at last
    simpa using last
  constructor
  · intro short
    exact (digitsValue_lt every).trans_le (Nat.pow_le_pow_right (by decide) short)
  · intro small
    generalize digits.dropWhile (· == '0') = row at every first small
    cases row with
    | nil => exact Nat.zero_le count
    | cons c rest =>
      have positive : 1 ≤ digitValue c := by
        have nonzero : digitValue c ≠ 0 := fun zero =>
          first c rfl ((digitValue_eq_zero_iff (every c List.mem_cons_self)).mp zero)
        omega
      have least : 10 ^ rest.length ≤ digitsValue (c :: rest) := by
        rw [digitsValue_cons]
        exact (Nat.le_mul_of_pos_left _ positive).trans (Nat.le_add_right _ _)
      exact (Nat.pow_lt_pow_iff_right (by decide : 1 < 10)).mp (least.trans_lt small)

end RemoteQuery.Number
