import RemoteQuery.Proofs.SignedNumerals
import RemoteQuery.Proofs.TypeNames

/-!
# Sizes of decimals

The arguments of a decimal are its digits and, behind a comma, its places; where they are no sizes,
those of the description stand in for them. Either are brought within the bounds of the columnar
format.
-/
namespace RemoteQuery.SqlType

/-- A precision and a scale with a comma between them, or a precision alone, for which the scale is
zero; blanks may stand around both. -/
inductive Sizes : List Char → Int → Int → Prop
  | precision {text : List Char} {precision : Int}
      (read : Number.signed? 32 (Text.trim text) = some precision) : Sizes text precision 0
  | both {first second : List Char} {precision scale : Int}
      (read : Number.signed? 32 (Text.trim first) = some precision)
      (also : Number.signed? 32 (Text.trim second) = some scale) :
      Sizes (first ++ ',' :: second) precision scale

/-- Digits and places of a decimal are the sizes, brought within the bounds of a decimal. -/
structure Clamps (precision scale : Int) (digits : Nat) (places : Int) : Prop where
  digits_eq : (digits : Int) = if precision ≤ 0 then 38 else min precision 38
  places_eq : places = max 0 (min scale digits)

theorem Clamps.bounds {precision scale : Int} {digits : Nat} {places : Int}
    (h : Clamps precision scale digits places) :
    1 ≤ digits ∧ digits ≤ 38 ∧ 0 ≤ places ∧ places ≤ digits := by
  obtain ⟨known, rfl⟩ := h
  split at known <;> omega

theorem Clamps.unique {precision scale places less : Int} {digits more : Nat}
    (h : Clamps precision scale digits places) (other : Clamps precision scale more less) :
    digits = more ∧ places = less := by
  have same := Int.ofNat_inj.mp (h.digits_eq.trans other.digits_eq.symm)
  subst same
  exact ⟨rfl, h.places_eq.trans other.places_eq.symm⟩

/-- Sizes within the bounds are kept. -/
theorem clamps_self {digits places : Nat} (first : 1 ≤ digits) (last : digits ≤ 38)
    (inside : places ≤ digits) : Clamps digits places digits places := by
  constructor
  · split <;> omega
  · omega

theorem clampedDecimal_eq_iff {precision scale : Int} {digits : Nat} {places : Int} :
    clampedDecimal precision scale = .decimal digits places ↔
      Clamps precision scale digits places := by
  have count : ((if precision ≤ 0 then maxPrecision else min precision.toNat maxPrecision : Nat) :
      Int) = if precision ≤ 0 then 38 else min precision 38 := by
    unfold maxPrecision
    split <;> omega
  rw [clampedDecimal, SqlType.decimal.injEq]
  constructor
  · rintro ⟨rfl, rfl⟩
    exact ⟨count, rfl⟩
  · rintro ⟨known, rfl⟩
    have same := Int.ofNat_inj.mp (count.trans known.symm)
    exact ⟨same, by rw [same]⟩

/-- No comma stands in a numeral or in the blanks around it. -/
theorem comma_not_mem {text : List Char} {value : Int}
    (read : Number.signed? 32 (Text.trim text) = some value) : ∀ c ∈ text, c ≠ ',' := by
  intro c member
  rcases Text.mem_trim_or_isBlank member with kept | blank
  · exact Number.not_isNumeral (Number.isNumeral_of_signed? read c kept) (by decide)
  · rintro rfl
    exact absurd blank (by decide)

theorem decimalArguments?_eq_some_iff {arguments : List Char} {precision scale : Int} :
    decimalArguments? arguments = some (precision, scale) ↔ Sizes arguments precision scale := by
  constructor
  · intro sized
    cases cut : Text.cut? (· == ',') arguments with
    | none =>
      simp only [decimalArguments?, cut, Option.getD_none] at sized
      obtain ⟨_, read, rest⟩ := Option.bind_eq_some_iff.mp sized
      obtain ⟨_, zero, same⟩ := Option.bind_eq_some_iff.mp rest
      have unwritten : Number.signed? 32 (Text.trim ['0']) = some 0 := by decide
      cases unwritten.symm.trans zero
      cases same
      exact .precision read
    | some parts =>
      obtain ⟨first, second⟩ := parts
      simp only [decimalArguments?, cut, Option.getD_some] at sized
      obtain ⟨_, read, rest⟩ := Option.bind_eq_some_iff.mp sized
      obtain ⟨_, also, same⟩ := Option.bind_eq_some_iff.mp rest
      cases same
      obtain ⟨_, comma, isComma, rfl⟩ := Text.cut?_eq_some_iff.mp cut
      rw [beq_iff_eq.mp isComma]
      exact .both read also
  · intro sizes
    cases sizes with
    | precision read =>
      have unwritten : Number.signed? 32 (Text.trim ['0']) = some 0 := by decide
      simp only [decimalArguments?, Text.cut?_eq_none (comma_not_mem read), Option.getD_none, read,
        unwritten, Option.bind_eq_bind, Option.bind_some, Option.pure_def]
    | both read also =>
      simp only [decimalArguments?, Text.cut?_append (comma_not_mem read), Option.getD_some, read,
        also, Option.bind_eq_bind, Option.bind_some, Option.pure_def]

/-- The sizes of a decimal: those of its text, or, if it has none, those that go with the text. -/
inductive Sized (text : List Char) (precision scale : Int) : Int → Int → Prop
  | written {arguments : List Char} {digits places : Int} (enclosed : HasArguments arguments text)
      (sizes : Sizes arguments digits places) : Sized text precision scale digits places
  | given (unsized : ∀ arguments digits places, HasArguments arguments text →
      ¬ Sizes arguments digits places) : Sized text precision scale precision scale

/-- The sizes of a text are what it encloses, of which there is only one reading. -/
theorem Sized.unique {text : List Char} {precision scale digits places more less : Int}
    (h : Sized text precision scale digits places) (other : Sized text precision scale more less) :
    digits = more ∧ places = less := by
  cases h with
  | written enclosed sizes =>
    cases other with
    | written also read =>
      have same := (splitArguments_snd_eq_some_iff.mpr enclosed).symm.trans
        (splitArguments_snd_eq_some_iff.mpr also)
      cases same
      cases (decimalArguments?_eq_some_iff.mpr sizes).symm.trans
        (decimalArguments?_eq_some_iff.mpr read)
      exact ⟨rfl, rfl⟩
    | given unsized => exact (unsized _ _ _ enclosed sizes).elim
  | given unsized =>
    cases other with
    | written also read => exact (unsized _ _ _ also read).elim
    | given => exact ⟨rfl, rfl⟩

end RemoteQuery.SqlType
