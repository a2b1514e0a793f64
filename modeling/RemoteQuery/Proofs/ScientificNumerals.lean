import RemoteQuery.Number.Scientific
import RemoteQuery.Proofs.DecimalNumerals
import RemoteQuery.Proofs.WholeSeconds

/-!
# Numerals with a power of ten

A text is read as a finite number just when it is a numeral, and behind a letter perhaps the digits
of a power of ten. Words for infinity and for no number do not begin as numerals do.
-/
namespace RemoteQuery.Number

open Columnar (DecimalNumeral)

/-- The number that a text names, before any rounding. -/
inductive Denotes : List Char → ℚ → Prop
  | plain {numeral : DecimalNumeral} {text : List Char} (spelled : numeral.Spells text) :
      Denotes text numeral.value
  | scaled {numeral : DecimalNumeral} {mantissa row : List Char} {letter : Char} {power : Int}
      (spelled : numeral.Spells mantissa) (marked : letter = 'e' ∨ letter = 'E')
      (raised : Signed row power) :
      Denotes (mantissa ++ letter :: row) (numeral.value * 10 ^ power)

/-- What stands behind the sign of a numeral. -/
def BehindSign (numeral : DecimalNumeral) (body : List Char) : Prop :=
  body = numeral.whole ++ '.' :: numeral.fraction ∨ numeral.fraction = [] ∧ body = numeral.whole

theorem spells_iff {numeral : DecimalNumeral} {text : List Char} :
    numeral.Spells text ↔
      ∃ sign ∈ signs numeral.negative, ∃ body, BehindSign numeral body ∧ text = sign ++ body := by
  constructor
  · intro spelled
    cases spelled with
    | pointed signed => exact ⟨_, signed, _, .inl rfl, rfl⟩
    | plain signed integral => exact ⟨_, signed, _, .inr ⟨integral, rfl⟩, rfl⟩
  · rintro ⟨sign, signed, body, rfl | ⟨integral, rfl⟩, rfl⟩
    · exact .pointed signed
    · exact .plain signed integral

variable {numeral : DecimalNumeral} {body : List Char}

/-- Digits and a point are all that a numeral has behind its sign. -/
theorem BehindSign.digit_or_point (h : BehindSign numeral body) :
    ∀ c ∈ body, isDigit c = true ∨ c = '.' := by
  intro c member
  rcases h with rfl | ⟨_, rfl⟩
  · rcases List.mem_append.mp member with whole | rest
    · exact .inl (numeral.isDigit_whole whole)
    · rcases List.mem_cons.mp rest with point | fraction
      · exact .inr point
      · exact .inl (numeral.isDigit_fraction fraction)
  · exact .inl (numeral.isDigit_whole member)

theorem BehindSign.exists_cons (h : BehindSign numeral body) : ∃ c rest, body = c :: rest := by
  apply List.exists_cons_of_ne_nil
  rintro rfl
  rcases h with empty | ⟨integral, empty⟩
  · simp at empty
  · exact numeral.nonempty (by rw [integral, ← empty, List.append_nil])

theorem BehindSign.cut (h : BehindSign numeral body) :
    (Text.cut? (· == '.') body).getD (body, []) = (numeral.whole, numeral.fraction) := by
  have point : ∀ c ∈ numeral.whole, c ≠ '.' := fun c member =>
    not_isDigit (numeral.isDigit_whole member) (by decide)
  rcases h with rfl | ⟨integral, rfl⟩
  · rw [Text.cut?_append point, Option.getD_some]
  · rw [Text.cut?_eq_none point, Option.getD_none, integral]

theorem significand?_eq_some_iff {digits : Nat} {shift : Int} (negative : Bool) :
    significand? body = some (digits, shift) ↔
      ∃ numeral : DecimalNumeral, numeral.negative = negative ∧ BehindSign numeral body ∧
        digits = digitsValue (numeral.whole ++ numeral.fraction) ∧
        shift = -(numeral.fraction.length : Int) := by
  rw [significand?]
  constructor
  · rcases parts : (Text.cut? (· == '.') body).getD (body, []) with ⟨whole, fraction⟩
    simp only
    intro read
    split at read
    · rename_i row
      simp only [Bool.and_eq_true, Bool.not_eq_true', Bool.and_eq_false_iff,
        List.isEmpty_eq_false_iff, List.all_eq_true] at row
      obtain ⟨⟨inWhole, inFraction⟩, nonempty⟩ := row
      cases read
      refine ⟨⟨negative, whole, fraction, ?_, ?_⟩, rfl, ?_, rfl, rfl⟩
      · exact List.forall_mem_append.mpr ⟨inWhole, inFraction⟩
      · rwa [ne_eq, List.append_eq_nil_iff, not_and_or]
      · cases cut : Text.cut? (· == '.') body with
        | none =>
          rw [cut] at parts
          cases parts
          exact .inr ⟨rfl, rfl⟩
        | some pair =>
          rw [cut] at parts
          cases parts
          obtain ⟨_, point, isPoint, rfl⟩ := Text.cut?_eq_some_iff.mp cut
          rw [beq_iff_eq.mp isPoint]
          exact .inl rfl
    · cases read
  · rintro ⟨numeral, _, behind, rfl, rfl⟩
    have nonempty := numeral.nonempty
    rw [ne_eq, List.append_eq_nil_iff, not_and_or, ← ne_eq, ← ne_eq,
      ← List.isEmpty_eq_false_iff, ← List.isEmpty_eq_false_iff, ← Bool.and_eq_false_iff] at nonempty
    have all := List.all_eq_true.mpr numeral.digits
    rw [List.all_append] at all
    rw [behind.cut]
    simp only [all, nonempty, Bool.not_false, Bool.and_self, if_true]

/-- A numeral counts the places behind its point as a power of ten. -/
theorem magnitude_eq (numeral : DecimalNumeral) :
    numeral.magnitude = digitsValue (numeral.whole ++ numeral.fraction)
      * 10 ^ (-(numeral.fraction.length : Int)) := by
  have moved : numeral.magnitude * 10 ^ numeral.fraction.length = _ :=
    DecimalNumeral.magnitude_mul (Nat.le_refl _)
  rw [DecimalNumeral.shifted, Nat.sub_self, pow_zero, mul_one, ← digitsValue_append] at moved
  rw [← moved, zpow_neg, zpow_natCast, mul_assoc, mul_inv_cancel₀ (by positivity), mul_one]

theorem BehindSign.not_isWord (h : BehindSign numeral body)
    {word : String} (other : word.toList.head?.any fun c => isDigit c || c == '.' = false)
    (rest : List Char) : isWord word (body ++ rest) = false := by
  obtain ⟨c, more, rfl⟩ := h.exists_cons
  have first := h.digit_or_point c List.mem_cons_self
  have lower : c.toLower = c := by
    rcases first with digit | rfl
    · exact toLower_digit digit
    · decide
  refine isWord_of_first lower ?_ (more ++ rest)
  intro same
  rw [same, Option.any_some, Bool.or_eq_false_iff, beq_eq_false_iff_ne] at other
  rcases first with digit | point
  · rw [digit] at other
    cases other.1
  · exact other.2 point

theorem BehindSign.splitSign (h : BehindSign numeral body) {sign : List Char}
    (signed : sign ∈ signs numeral.negative) (rest : List Char) :
    splitSign (sign ++ (body ++ rest)) = (numeral.negative, body ++ rest) := by
  obtain ⟨c, more, rfl⟩ := h.exists_cons
  apply splitSign_sign signed
  rintro _ ⟨⟩
  rcases h.digit_or_point c List.mem_cons_self with digit | rfl
  · exact ⟨not_isDigit digit (by decide), not_isDigit digit (by decide)⟩
  · decide

theorem BehindSign.no_letter (h : BehindSign numeral body) :
    ∀ c ∈ body, (c == 'e' || c == 'E') = false := by
  intro c member
  rw [Bool.or_eq_false_iff, beq_eq_false_iff_ne, beq_eq_false_iff_ne]
  rcases h.digit_or_point c member with digit | rfl
  · exact ⟨not_isDigit digit (by decide), not_isDigit digit (by decide)⟩
  · decide

theorem BehindSign.read_plain (h : BehindSign numeral body) (negative : Bool) :
    unsignedScientific? negative body =
      some (.finite negative (digitsValue (numeral.whole ++ numeral.fraction))
        (-(numeral.fraction.length : Int))) := by
  have word {word : String}
      (other : word.toList.head?.any fun c => isDigit c || c == '.' = false) :
      isWord word body = false := by
    have here := h.not_isWord other []
    rwa [List.append_nil] at here
  have significand := (significand?_eq_some_iff numeral.negative).mpr ⟨numeral, rfl, h, rfl, rfl⟩
  rw [unsignedScientific?, word (by decide), word (by decide), word (by decide),
    Text.cut?_eq_none_iff.mpr h.no_letter]
  simp only [significand, Bool.or_self, Bool.false_eq_true, if_false, Option.map_some]

theorem BehindSign.read_scaled (h : BehindSign numeral body) {row : List Char} {letter : Char}
    {power : Int} (marked : letter = 'e' ∨ letter = 'E') (raised : Signed row power)
    (negative : Bool) :
    unsignedScientific? negative (body ++ letter :: row) =
      some (.finite negative (digitsValue (numeral.whole ++ numeral.fraction))
        (power + -(numeral.fraction.length : Int))) := by
  have word {word : String}
      (other : word.toList.head?.any fun c => isDigit c || c == '.' = false) :=
    h.not_isWord other (letter :: row)
  have isLetter : (letter == 'e' || letter == 'E') = true := by
    rwa [Bool.or_eq_true, beq_iff_eq, beq_iff_eq]
  have significand := (significand?_eq_some_iff numeral.negative).mpr ⟨numeral, rfl, h, rfl, rfl⟩
  rw [unsignedScientific?, word (by decide), word (by decide), word (by decide),
    Text.cut?_eq_some_iff.mpr ⟨h.no_letter, letter, isLetter, rfl⟩]
  simp only [significand, integer?_eq_some_iff.mpr raised, Bool.or_self, Bool.false_eq_true,
    if_false]
  rfl

/-- The number with the sign. -/
def signedBy (negative : Bool) (number : ℚ) : ℚ := if negative then -number else number

theorem value_eq (numeral : DecimalNumeral) :
    numeral.value = signedBy numeral.negative numeral.magnitude := rfl

theorem signedBy_mul (negative : Bool) (number factor : ℚ) :
    signedBy negative number * factor = signedBy negative (number * factor) := by
  rw [signedBy, signedBy]
  split
  · exact neg_mul _ _
  · rfl

theorem read?_of_denotes {text : List Char} {number : ℚ} (h : Denotes text number) :
    ∃ negative digits exponent,
      Scientific.read? text = some (.finite negative digits exponent) ∧
        number = signedBy negative (digits * 10 ^ exponent) := by
  cases h with
  | @plain numeral _ spelled =>
    obtain ⟨sign, signed, body, behind, rfl⟩ := spells_iff.mp spelled
    have parted := behind.splitSign signed []
    rw [List.append_nil] at parted
    refine ⟨numeral.negative, digitsValue (numeral.whole ++ numeral.fraction),
      -(numeral.fraction.length : Int), ?_, ?_⟩
    · rw [Scientific.read?, parted]
      exact behind.read_plain numeral.negative
    · rw [value_eq, magnitude_eq]
  | @scaled numeral mantissa row letter power spelled marked raised =>
    obtain ⟨sign, signed, body, behind, rfl⟩ := spells_iff.mp spelled
    refine ⟨numeral.negative, digitsValue (numeral.whole ++ numeral.fraction),
      power + -(numeral.fraction.length : Int), ?_, ?_⟩
    · rw [List.append_assoc, Scientific.read?, behind.splitSign signed]
      exact behind.read_scaled marked raised numeral.negative
    · rw [value_eq, signedBy_mul, magnitude_eq, mul_assoc, ← zpow_add₀ (by norm_num), add_comm]

theorem denotes_of_read? {text : List Char} {negative : Bool} {digits : Nat} {exponent : Int}
    (h : Scientific.read? text = some (.finite negative digits exponent)) :
    Denotes text (signedBy negative (digits * 10 ^ exponent)) := by
  rw [Scientific.read?] at h
  rcases parted : splitSign text with ⟨sign, body⟩
  rw [parted] at h
  obtain ⟨written, signed, rfl⟩ := exists_sign parted
  simp only [unsignedScientific?] at h
  split at h
  · cases h
  split at h
  · cases h
  cases cut : Text.cut? (fun c => c == 'e' || c == 'E') body with
  | none =>
    rw [cut] at h
    obtain ⟨⟨_, _⟩, significand, made⟩ := Option.map_eq_some_iff.mp h
    cases made
    obtain ⟨numeral, rfl, behind, rfl, rfl⟩ := (significand?_eq_some_iff negative).mp significand
    rw [← magnitude_eq, ← value_eq]
    exact .plain (spells_iff.mpr ⟨written, signed, body, behind, rfl⟩)
  | some parts =>
    obtain ⟨before, after⟩ := parts
    rw [cut] at h
    simp only [Option.bind_eq_bind, Option.bind_eq_some_iff] at h
    obtain ⟨⟨_, _⟩, significand, power, raised, made⟩ := h
    cases made
    obtain ⟨numeral, rfl, behind, rfl, rfl⟩ := (significand?_eq_some_iff negative).mp significand
    obtain ⟨_, letter, isLetter, rfl⟩ := Text.cut?_eq_some_iff.mp cut
    rw [Bool.or_eq_true, beq_iff_eq, beq_iff_eq] at isLetter
    have scaled := Denotes.scaled (spells_iff.mpr ⟨written, signed, before, behind, rfl⟩) isLetter
      (integer?_eq_some_iff.mp raised)
    rw [value_eq, signedBy_mul, magnitude_eq, mul_assoc, ← zpow_add₀ (by norm_num), add_comm,
      List.append_assoc] at scaled
    exact scaled

/-- A text names one number. -/
theorem Denotes.unique {text : List Char} {number other : ℚ} (h : Denotes text number)
    (another : Denotes text other) : number = other := by
  obtain ⟨_, _, _, read, rfl⟩ := read?_of_denotes h
  obtain ⟨_, _, _, readToo, rfl⟩ := read?_of_denotes another
  cases read.symm.trans readToo
  rfl

end RemoteQuery.Number
