import RemoteQuery.Proofs.DecimalNumerals

/-!
# Decimals are read exactly

A decimal is read by moving digits about, and how large it is is told from how many digits it has.
Both come to the same as arithmetic on the number that the text names: a text is taken just when it
is a numeral with no more places than the scale and a value that the precision has room for, and the
integer that is stored is that value with its point moved by the scale.
-/
namespace RemoteQuery.Columnar

open DecimalNumeral

/-- The two conditions on the form of a text are that a numeral spells it. -/
theorem spelled_or_unformed (precision scale : Nat) (text : List Char) :
    (∃ numeral : DecimalNumeral, numeral.Spells text) ∨
      (∀ numeral : DecimalNumeral, ¬ numeral.Spells text) ∧
        readDecimal precision scale text = .error (.form (String.ofList text)) := by
  rw [readDecimal]
  rcases sign : Number.splitSign text with ⟨negative, body⟩
  rcases parts : (Text.cut? (· == '.') body).getD (body, []) with ⟨whole, fraction⟩
  -- A numeral that spells the text has just these parts.
  have unspelled
      (wrong : whole ++ fraction = [] ∨ ∃ c ∈ whole ++ fraction, Number.isDigit c = false)
      (numeral : DecimalNumeral) : ¬ numeral.Spells text := by
    intro spelled
    obtain ⟨_, same, cut⟩ := spelled.parts
    cases sign.symm.trans same
    cases parts.symm.trans cut
    rcases wrong with empty | ⟨c, member, other⟩
    · exact numeral.nonempty empty
    · rw [numeral.digits c member] at other
      cases other
  simp only [parts]
  split
  · rename_i empty
    simp only [Bool.and_eq_true, List.isEmpty_iff] at empty
    exact .inr ⟨unspelled (.inl (List.append_eq_nil_iff.mpr empty)), rfl⟩
  · rename_i nonempty
    simp only [Bool.and_eq_true, List.isEmpty_iff] at nonempty
    split
    · rename_i other
      refine .inr ⟨unspelled (.inr ?_), rfl⟩
      simp only [Bool.or_eq_true, Bool.not_eq_true', List.all_eq_false] at other
      rcases other with ⟨c, member, other⟩ | ⟨c, member, other⟩
      · exact ⟨c, List.mem_append_left _ member, Bool.eq_false_iff.mpr other⟩
      · exact ⟨c, List.mem_append_right _ member, Bool.eq_false_iff.mpr other⟩
    · rename_i digits
      simp only [Bool.or_eq_true, Bool.not_eq_true', not_or, Bool.not_eq_false] at digits
      refine .inl ⟨⟨negative, whole, fraction, ?_, ?_⟩, spells_of_parts sign parts⟩
      · intro c member
        rcases List.mem_append.mp member with member | member
        · exact List.all_eq_true.mp digits.1 c member
        · exact List.all_eq_true.mp digits.2 c member
      · exact fun empty => nonempty (List.append_eq_nil_iff.mp empty)

/-- A text of the right form goes through the three conditions that follow. -/
theorem readDecimal_of_spells {numeral : DecimalNumeral} {text : List Char}
    (spelled : numeral.Spells text) (precision scale : Nat) :
    readDecimal precision scale text =
      if scale < numeral.fraction.length then
        .error (.fractionalDigits (String.ofList text) scale)
      else if precision < (numeral.whole.dropWhile (· == '0')).length + scale then
        .error (.digits (String.ofList text) precision)
      else
        (readMagnitude? (shiftedDigits scale numeral.whole numeral.fraction)).elim
          (.error (.form (String.ofList text)))
          fun magnitude => .ok (if numeral.negative then -magnitude else magnitude) := by
  obtain ⟨body, sign, parts⟩ := spelled.parts
  have nonempty : ¬ (numeral.whole.isEmpty && numeral.fraction.isEmpty) = true := by
    intro empty
    simp only [Bool.and_eq_true, List.isEmpty_iff] at empty
    exact numeral.nonempty (List.append_eq_nil_iff.mpr empty)
  have digits : ¬ (!numeral.whole.all Number.isDigit || !numeral.fraction.all Number.isDigit)
      = true := by
    rw [List.all_eq_true.mpr fun c member => numeral.isDigit_whole member,
      List.all_eq_true.mpr fun c member => numeral.isDigit_fraction member]
    decide
  rw [readDecimal, sign]
  simp only [parts, if_neg nonempty, if_neg digits, Int.toNat_natCast]
  cases readMagnitude? (shiftedDigits scale numeral.whole numeral.fraction) <;> rfl

section Bounds

variable {precision scale : Nat} (last : precision ≤ 38) (within : scale ≤ precision)
include last within

theorem readDecimal_of_admits {text : List Char} {unscaled : Int}
    (h : Admits precision scale text unscaled) :
    readDecimal precision scale text = .ok unscaled := by
  obtain ⟨numeral, spelled, fits, stored⟩ := h
  rw [value_mul fits.places] at stored
  have bound := (abs_value_mul_lt_iff fits.places precision).mp fits.bound
  have short := (length_le_iff fits.places within).mpr bound
  rw [readDecimal_of_spells spelled, if_neg (Nat.not_lt.mpr fits.places),
    if_neg (Nat.not_lt.mpr short), readMagnitude?_shiftedDigits last fits.places bound,
    Option.elim_some, Int.cast_inj.mp stored]

omit last in
theorem readDecimal_of_refuses {text : List Char} {fault : DecimalFault}
    (h : Refuses precision scale text fault) :
    readDecimal precision scale text = .error fault := by
  cases h with
  | form unspelled =>
    rcases spelled_or_unformed precision scale text with ⟨numeral, spelled⟩ | ⟨_, unformed⟩
    · exact (unspelled numeral spelled).elim
    · exact unformed
  | fractionalDigits spelled long => rw [readDecimal_of_spells spelled, if_pos long]
  | @digits numeral spelled places large =>
    have long : ¬ (numeral.whole.dropWhile (· == '0')).length + scale ≤ precision := by
      rw [length_le_iff places within, ← abs_value_mul_lt_iff places]
      exact not_lt.mpr large
    rw [readDecimal_of_spells spelled, if_neg (Nat.not_lt.mpr places),
      if_pos (Nat.lt_of_not_le long)]

omit last within in
theorem admits_or_refuses (precision scale : Nat) (text : List Char) :
    (∃ unscaled, Admits precision scale text unscaled) ∨
      ∃ fault, Refuses precision scale text fault := by
  rcases spelled_or_unformed precision scale text with ⟨numeral, spelled⟩ | ⟨unspelled, _⟩
  · rcases Nat.lt_or_ge scale numeral.fraction.length with long | places
    · exact .inr ⟨_, .fractionalDigits spelled long⟩
    · rcases lt_or_ge (|numeral.value| * 10 ^ scale) (10 ^ precision) with bound | large
      · exact .inl ⟨_, numeral, spelled, ⟨places, bound⟩, (value_mul places).symm⟩
      · exact .inr ⟨_, .digits spelled places large⟩
  · exact .inr ⟨_, .form unspelled⟩

theorem readDecimal_eq_ok_iff {text : List Char} {unscaled : Int} :
    readDecimal precision scale text = .ok unscaled ↔ Admits precision scale text unscaled := by
  refine ⟨?_, readDecimal_of_admits last within⟩
  intro read
  rcases admits_or_refuses precision scale text with ⟨value, admitted⟩ | ⟨fault, refused⟩
  · rw [readDecimal_of_admits last within admitted] at read
    cases read
    exact admitted
  · rw [readDecimal_of_refuses within refused] at read
    cases read

theorem readDecimal_eq_error_iff {text : List Char} {fault : DecimalFault} :
    readDecimal precision scale text = .error fault ↔ Refuses precision scale text fault := by
  refine ⟨?_, readDecimal_of_refuses within⟩
  intro failed
  rcases admits_or_refuses precision scale text with ⟨unscaled, admitted⟩ | ⟨cause, refused⟩
  · rw [readDecimal_of_admits last within admitted] at failed
    cases failed
  · rw [readDecimal_of_refuses within refused] at failed
    cases failed
    exact refused

omit last within in
theorem Admits.bound {text : List Char} {unscaled : Int}
    (h : Admits precision scale text unscaled) : |unscaled| < 10 ^ precision := by
  obtain ⟨numeral, _, fits, stored⟩ := h
  have room : |(unscaled : ℚ)| < 10 ^ precision := by
    rw [stored, abs_mul, abs_of_nonneg (by positivity : (0 : ℚ) ≤ 10 ^ scale)]
    exact fits.bound
  exact_mod_cast room

end Bounds

end RemoteQuery.Columnar
