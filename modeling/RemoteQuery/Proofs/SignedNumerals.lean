import RemoteQuery.Proofs.DigitRows

/-!
# Numerals with a sign

A numeral is a row of digits behind a sign, which may be left out where it is a plus. A number of so
many bits is read just from the numerals of a value that is in range.
-/
namespace RemoteQuery.Number

theorem splitSign_digits {digits : List Char} (all : ∀ c ∈ digits, isDigit c = true) :
    splitSign digits = (false, digits) := by
  unfold splitSign
  split
  · exact (not_isDigit (all '-' List.mem_cons_self) (by decide) rfl).elim
  · exact (not_isDigit (all '+' List.mem_cons_self) (by decide) rfl).elim
  · rfl

/-- The ways to write a sign; that of a number that is not negative may be left out. -/
def signs (negative : Bool) : List (List Char) := if negative then [['-']] else [[], ['+']]

theorem splitSign_sign {negative : Bool} {sign body : List Char} (signed : sign ∈ signs negative)
    (unsigned : ∀ c, body.head? = some c → c ≠ '-' ∧ c ≠ '+') :
    splitSign (sign ++ body) = (negative, body) := by
  cases negative with
  | true =>
    rw [List.mem_singleton.mp signed]
    rfl
  | false =>
    rcases List.mem_cons.mp signed with rfl | plus
    · cases body with
      | nil => rfl
      | cons c body =>
        obtain ⟨minus, plus⟩ := unsigned c rfl
        rw [List.nil_append, splitSign]
        · rintro _ ⟨⟩
          exact minus rfl
        · rintro _ ⟨⟩
          exact plus rfl
    · rw [List.mem_singleton.mp plus]
      rfl

theorem exists_sign {negative : Bool} {text body : List Char}
    (h : splitSign text = (negative, body)) : ∃ sign ∈ signs negative, text = sign ++ body := by
  unfold splitSign at h
  split at h
  · cases h
    exact ⟨['-'], List.mem_singleton_self _, rfl⟩
  · cases h
    exact ⟨['+'], List.mem_cons_of_mem _ (List.mem_singleton_self _), rfl⟩
  · cases h
    exact ⟨[], List.mem_cons_self, rfl⟩

theorem digits?_eq_some_iff {text : List Char} {value : Nat} :
    digits? text = some value ↔
      text ≠ [] ∧ (∀ c ∈ text, isDigit c = true) ∧ value = digitsValue text := by
  rw [digits?]
  constructor
  · intro read
    split at read
    · rename_i row
      cases read
      exact ⟨row.1, List.all_eq_true.mp row.2, rfl⟩
    · cases read
  · rintro ⟨nonempty, all, rfl⟩
    exact if_pos ⟨nonempty, List.all_eq_true.mpr all⟩

theorem integer?_of_splitSign {text digits : List Char} {negative : Bool}
    (sign : splitSign text = (negative, digits)) :
    integer? text = (digits? digits).map fun (value : Nat) =>
      (if negative then -value else value : Int) := by
  rw [integer?, sign]
  cases negative
  all_goals
    simp only
    cases digits? digits <;> rfl

/-- An integer as a row of digits behind its sign. -/
inductive Signed : List Char → Int → Prop
  | intro {negative : Bool} {sign digits : List Char} (signed : sign ∈ signs negative)
      (nonempty : digits ≠ []) (all : ∀ c ∈ digits, isDigit c = true) :
      Signed (sign ++ digits) (if negative then -(digitsValue digits : Int) else digitsValue digits)

theorem integer?_eq_some_iff {text : List Char} {value : Int} :
    integer? text = some value ↔ Signed text value := by
  constructor
  · intro read
    rcases parted : splitSign text with ⟨negative, digits⟩
    rw [integer?_of_splitSign parted] at read
    obtain ⟨number, row, rfl⟩ := Option.map_eq_some_iff.mp read
    obtain ⟨nonempty, all, rfl⟩ := digits?_eq_some_iff.mp row
    obtain ⟨sign, signed, rfl⟩ := exists_sign parted
    exact .intro signed nonempty all
  · rintro ⟨signed, nonempty, all⟩
    rename_i negative sign digits
    have unsigned : ∀ c, digits.head? = some c → c ≠ '-' ∧ c ≠ '+' := by
      intro c first
      have digit := all c (List.mem_of_head? first)
      exact ⟨not_isDigit digit (by decide), not_isDigit digit (by decide)⟩
    rw [integer?_of_splitSign (splitSign_sign signed unsigned),
      digits?_eq_some_iff.mpr ⟨nonempty, all, rfl⟩, Option.map_some]

/-- A bounded integer is written as a sign, that of a number that is not negative being optional,
and a row of digits. -/
theorem signed?_eq_some_iff {bits : Nat} {text : List Char} {value : Int} :
    signed? bits text = some value ↔
      ∃ negative, ∃ sign ∈ signs negative, ∃ digits, digits ≠ [] ∧
        (∀ c ∈ digits, isDigit c = true) ∧ text = sign ++ digits ∧
        value = (if negative then -(digitsValue digits : Int) else digitsValue digits) ∧
        InSignedRange bits value := by
  rw [signed?, Option.filter_eq_some_iff, decide_eq_true_iff, integer?_eq_some_iff]
  constructor
  · rintro ⟨⟨signed, nonempty, all⟩, within⟩
    exact ⟨_, _, signed, _, nonempty, all, rfl, rfl, within⟩
  · rintro ⟨negative, sign, signed, digits, nonempty, all, rfl, rfl, within⟩
    exact ⟨.intro signed nonempty all, within⟩

/-- Only the upper bound matters for a number that is not negative. -/
theorem inSignedRange_natCast {bits n : Nat} :
    InSignedRange bits n ↔ n < Nat.pow 2 (bits - 1) := by
  constructor
  · intro within
    exact Int.ofNat_lt.mp within.2
  · intro small
    refine ⟨?_, Int.ofNat_lt.mpr small⟩
    omega

theorem signed?_digits {bits : Nat} {digits : List Char} (nonempty : digits ≠ [])
    (all : ∀ c ∈ digits, isDigit c = true) (within : InSignedRange bits (digitsValue digits)) :
    signed? bits digits = some (digitsValue digits : Int) :=
  signed?_eq_some_iff.mpr
    ⟨false, [], List.mem_cons_self, digits, nonempty, all, rfl, rfl, within⟩

/-- A row of digits, behind a plus sign or none. -/
def Unsigned (text : List Char) (value : Nat) : Prop :=
  ∃ sign ∈ signs false, ∃ digits, digits ≠ [] ∧ (∀ c ∈ digits, isDigit c = true) ∧
    text = sign ++ digits ∧ value = digitsValue digits

theorem natural?_eq_some_iff {text : List Char} {value : Nat} :
    natural? text = some value ↔ Unsigned text value := by
  constructor
  · intro read
    unfold natural? at read
    split at read
    · obtain ⟨nonempty, all, rfl⟩ := digits?_eq_some_iff.mp read
      exact ⟨['+'], by simp [signs], _, nonempty, all, rfl, rfl⟩
    · obtain ⟨nonempty, all, rfl⟩ := digits?_eq_some_iff.mp read
      exact ⟨[], by simp [signs], _, nonempty, all, rfl, rfl⟩
  · rintro ⟨sign, signed, digits, nonempty, all, rfl, rfl⟩
    have row := digits?_eq_some_iff.mpr ⟨nonempty, all, rfl⟩
    rcases List.mem_cons.mp signed with rfl | plus
    · rw [List.nil_append, natural?, row]
      rintro rest rfl
      exact not_isDigit (all '+' List.mem_cons_self) (by decide) rfl
    · rw [List.mem_singleton.mp plus]
      exact row

theorem unsigned?_eq_some_iff {bits : Nat} {text : List Char} {value : Nat} :
    unsigned? bits text = some value ↔ Unsigned text value ∧ value < Nat.pow 2 bits := by
  rw [unsigned?, Option.filter_eq_some_iff, decide_eq_true_iff, natural?_eq_some_iff]

/-- Without a minus sign a signed numeral is an unsigned one. -/
theorem signed?_eq_some_iff_unsigned {bits : Nat} {text : List Char} {value : Int}
    (plain : ∀ c ∈ text, c ≠ '-') :
    signed? bits text = some value ↔
      ∃ number, Unsigned text number ∧ value = number ∧ InSignedRange bits value := by
  rw [signed?_eq_some_iff]
  constructor
  · rintro ⟨negative, sign, signed, digits, nonempty, all, rfl, same, within⟩
    cases negative with
    | true =>
      rw [List.mem_singleton.mp signed] at plain
      exact (plain '-' List.mem_cons_self rfl).elim
    | false => exact ⟨_, ⟨sign, signed, digits, nonempty, all, rfl, rfl⟩, same, within⟩
  · rintro ⟨_, ⟨sign, signed, digits, nonempty, all, rfl, rfl⟩, same, within⟩
    exact ⟨false, sign, signed, digits, nonempty, all, rfl, same, within⟩

theorem Unsigned.digit_or_plus {text : List Char} {value : Nat} (h : Unsigned text value) :
    ∀ c ∈ text, isDigit c = true ∨ c = '+' := by
  obtain ⟨sign, signed, digits, _, all, rfl, _⟩ := h
  intro c member
  rcases List.mem_append.mp member with member | member
  · rcases List.mem_cons.mp signed with rfl | plus
    · exact nomatch member
    · rw [List.mem_singleton.mp plus] at member
      exact .inr (List.mem_singleton.mp member)
  · exact .inl (all c member)

/-- A character that a numeral can have. -/
def IsNumeral (c : Char) : Prop := isDigit c = true ∨ c = '-' ∨ c = '+'

theorem not_isNumeral {c d : Char} (numeral : IsNumeral c)
    (other : isDigit d = false ∧ d ≠ '-' ∧ d ≠ '+') : c ≠ d := by
  rintro rfl
  rcases numeral with digit | minus | plus
  · exact not_isDigit digit other.1 rfl
  · exact other.2.1 minus
  · exact other.2.2 plus

theorem isBlank_of_isNumeral {c : Char} (h : IsNumeral c) : Text.isBlank c = false := by
  rcases h with digit | rfl | rfl
  · obtain ⟨least, most⟩ := isDigit_iff.mp digit
    exact Text.isBlank_of_graphic (by omega) (by omega)
  · decide
  · decide

theorem isNumeral_of_signed? {bits : Nat} {text : List Char} {value : Int}
    (h : signed? bits text = some value) : ∀ c ∈ text, IsNumeral c := by
  obtain ⟨negative, sign, signed, digits, _, all, rfl, _⟩ := signed?_eq_some_iff.mp h
  intro c member
  rcases List.mem_append.mp member with member | member
  · cases negative with
    | true =>
      rw [List.mem_singleton.mp signed] at member
      exact .inr (.inl (List.mem_singleton.mp member))
    | false =>
      rcases List.mem_cons.mp signed with rfl | plus
      · exact nomatch member
      · rw [List.mem_singleton.mp plus] at member
        exact .inr (.inr (List.mem_singleton.mp member))
  · exact .inl (all c member)

theorem isNumeral_of_unsigned? {bits : Nat} {text : List Char} {value : Nat}
    (h : unsigned? bits text = some value) : ∀ c ∈ text, IsNumeral c := by
  intro c member
  rcases (unsigned?_eq_some_iff.mp h).1.digit_or_plus c member with digit | plus
  · exact .inl digit
  · exact .inr (.inr plus)

end RemoteQuery.Number
