import RemoteQuery.Json.Token

/-!
# Numbers of JSON

The text of a number is put together of a sign, digits before the point, a fraction and an exponent.
The scanner takes these parts one after the other, as far as each reaches; what follows a number
must not be able to prolong it.
-/
namespace RemoteQuery.Json

open Number (isDigit digitsValue)

/-- One digit or more. -/
def Digits (digits : List Char) : Prop := digits ≠ [] ∧ ∀ c ∈ digits, isDigit c = true

/-- The digits before the point: none of several starts with a zero. -/
def Whole (whole : List Char) : Prop := Digits whole ∧ (whole.head? = some '0' → whole = ['0'])

inductive Fraction : List Char → Prop
  | none : Fraction []
  | some {digits : List Char} (h : Digits digits) : Fraction ('.' :: digits)

inductive Exponent : List Char → Prop
  | none : Exponent []
  | some {mark : Char} {sign digits : List Char} (marked : mark = 'e' ∨ mark = 'E')
      (signed : sign = [] ∨ sign = ['+'] ∨ sign = ['-']) (h : Digits digits) :
      Exponent (mark :: (sign ++ digits))

def minus (negative : Bool) : List Char := if negative then ['-'] else []

/-- The texts of a number: whole numbers but for `-0` are integers, and all others are kept as they
are written. -/
inductive Numeral : JsonNumber → List Char → Prop
  | integer {negative : Bool} {whole : List Char} (h : Whole whole)
      (proper : ¬ (negative = true ∧ digitsValue whole = 0)) :
      Numeral (.integer (if negative then -(digitsValue whole : Int) else digitsValue whole))
        (minus negative ++ whole)
  | real {negative : Bool} {whole fraction exponent : List Char} (h : Whole whole)
      (broken : Fraction fraction) (scaled : Exponent exponent)
      (proper : ¬ (fraction = [] ∧ exponent = [] ∧ ¬ (negative = true ∧ digitsValue whole = 0))) :
      Numeral (.real (String.ofList (minus negative ++ whole ++ fraction ++ exponent)))
        (minus negative ++ whole ++ fraction ++ exponent)

/-- The next character, if there is one, has the property. -/
def Next (property : Char → Prop) (rest : List Char) : Prop := ∀ c ∈ rest.head?, property c

/-- What comes next does not belong to a number. -/
def Stops (rest : List Char) : Prop :=
  Next (fun c => isDigit c = false ∧ c ≠ '.' ∧ c ≠ 'e' ∧ c ≠ 'E') rest

theorem digitsAfter?_of_digits {digits rest : List Char} (h : Digits digits)
    (next : Next (fun c => isDigit c = false) rest) :
    digitsAfter? (digits ++ rest) = some (digits, rest) := by
  have none : rest.takeWhile isDigit = [] ∧ rest.dropWhile isDigit = rest := by
    cases rest with
    | nil => exact ⟨rfl, rfl⟩
    | cons c rest =>
      have other : ¬ isDigit c = true := Bool.eq_false_iff.mp (next c rfl)
      exact ⟨List.takeWhile_cons_of_neg other, List.dropWhile_cons_of_neg other⟩
  have taken : (digits ++ rest).takeWhile isDigit = digits := by
    rw [List.takeWhile_append_of_pos h.2, none.1, List.append_nil]
  have left : (digits ++ rest).dropWhile isDigit = rest := by
    rw [List.dropWhile_append_of_pos h.2, none.2]
  rw [digitsAfter?, taken, left]
  split
  · exact (h.1 rfl).elim
  · rfl

theorem digits_of_digitsAfter? {text digits rest : List Char}
    (h : digitsAfter? text = some (digits, rest)) : Digits digits ∧ text = digits ++ rest := by
  unfold digitsAfter? at h
  split at h
  · cases h
  · rename_i nonempty
    cases h
    refine ⟨⟨nonempty, ?_⟩, List.takeWhile_append_dropWhile.symm⟩
    exact fun c member => List.all_eq_true.mp List.all_takeWhile c member

theorem scanWhole_of_whole {whole rest : List Char} (h : Whole whole)
    (next : Next (fun c => isDigit c = false) rest) :
    scanWhole (whole ++ rest) = some (whole, rest) := by
  obtain ⟨digits, alone⟩ := h
  unfold scanWhole
  split
  · rename_i zero
    obtain ⟨c, tail, rfl⟩ := List.exists_cons_of_ne_nil digits.1
    obtain ⟨rfl, rfl⟩ := List.cons.inj zero
    cases alone rfl
    rfl
  · exact digitsAfter?_of_digits digits next

theorem whole_of_scanWhole {text whole rest : List Char}
    (h : scanWhole text = some (whole, rest)) : Whole whole ∧ text = whole ++ rest := by
  unfold scanWhole at h
  split at h
  · cases h
    exact ⟨⟨⟨nofun, List.forall_mem_singleton.mpr rfl⟩, fun _ => rfl⟩, rfl⟩
  · rename_i notZero
    obtain ⟨digits, rfl⟩ := digits_of_digitsAfter? h
    refine ⟨⟨digits, ?_⟩, rfl⟩
    intro zero
    obtain ⟨c, tail, rfl⟩ := List.exists_cons_of_ne_nil digits.1
    cases zero
    exact (notZero _ rfl).elim

theorem scanFraction_of_fraction {fraction rest : List Char} (h : Fraction fraction)
    (next : Next (fun c => isDigit c = false ∧ c ≠ '.') rest) :
    scanFraction (fraction ++ rest) = some (fraction, rest) := by
  cases h with
  | none =>
    rw [List.nil_append]
    unfold scanFraction
    split
    · exact ((next '.' rfl).2 rfl).elim
    · rfl
  | some digits =>
    have read := digitsAfter?_of_digits digits fun c first => (next c first).1
    rw [List.cons_append, scanFraction, read]
    rfl

theorem fraction_of_scanFraction {text fraction rest : List Char}
    (h : scanFraction text = some (fraction, rest)) :
    Fraction fraction ∧ text = fraction ++ rest := by
  unfold scanFraction at h
  split at h
  · obtain ⟨⟨digits, rest⟩, found, same⟩ := Option.map_eq_some_iff.mp h
    cases same
    obtain ⟨digits, rfl⟩ := digits_of_digitsAfter? found
    exact ⟨.some digits, rfl⟩
  · cases h
    exact ⟨.none, rfl⟩

theorem scanExponent_of_exponent {exponent rest : List Char} (h : Exponent exponent)
    (next : Stops rest) : scanExponent (exponent ++ rest) = some (exponent, rest) := by
  cases h with
  | none =>
    rw [List.nil_append]
    unfold scanExponent
    split
    · rename_i c rest
      have other := next c rfl
      rw [if_neg (not_or.mpr ⟨other.2.2.1, other.2.2.2⟩)]
    · rfl
  | @some mark sign digits marked signed h =>
    have read := digitsAfter?_of_digits h fun c first => (next c first).1
    rw [List.cons_append, List.append_assoc]
    unfold scanExponent
    simp only [if_pos marked]
    rcases signed with rfl | rfl | rfl
    · obtain ⟨c, tail, rfl⟩ := List.exists_cons_of_ne_nil h.1
      have digit := h.2 c List.mem_cons_self
      rw [List.nil_append]
      split
      · rename_i plus
        cases (List.cons.inj plus).1
        cases digit
      · rename_i hyphen
        cases (List.cons.inj hyphen).1
        cases digit
      · rw [read]
        rfl
    · simp only [List.cons_append, List.nil_append, read, Option.map_some]
    · simp only [List.cons_append, List.nil_append, read, Option.map_some]

theorem exponent_of_scanExponent {text exponent rest : List Char}
    (h : scanExponent text = some (exponent, rest)) :
    Exponent exponent ∧ text = exponent ++ rest := by
  unfold scanExponent at h
  split at h
  · split at h
    · rename_i marked
      split at h
      all_goals
        obtain ⟨⟨digits, rest⟩, found, same⟩ := Option.map_eq_some_iff.mp h
        cases same
        obtain ⟨digits, rfl⟩ := digits_of_digitsAfter? found
      · exact ⟨.some marked (.inr (.inl rfl)) digits, rfl⟩
      · exact ⟨.some marked (.inr (.inr rfl)) digits, rfl⟩
      · exact ⟨.some marked (.inl rfl) digits, rfl⟩
    · cases h
      exact ⟨.none, rfl⟩
  · cases h
    exact ⟨.none, rfl⟩

theorem Exponent.next {exponent rest : List Char} (h : Exponent exponent) (next : Stops rest) :
    Next (fun c => isDigit c = false ∧ c ≠ '.') (exponent ++ rest) := by
  cases h with
  | none => exact fun c first => ⟨(next c first).1, (next c first).2.1⟩
  | some marked =>
    rintro c ⟨⟩
    rcases marked with rfl | rfl <;> decide

theorem Fraction.next {fraction rest : List Char} (h : Fraction fraction)
    (next : Next (fun c => isDigit c = false ∧ c ≠ '.') rest) :
    Next (fun c => isDigit c = false) (fraction ++ rest) := by
  cases h with
  | none => exact fun c first => (next c first).1
  | some =>
    rintro c ⟨⟩
    decide

theorem isInteger_iff {negative : Bool} {whole fraction exponent : List Char} :
    (fraction.isEmpty && exponent.isEmpty && !(negative && digitsValue whole == 0)) = true ↔
      fraction = [] ∧ exponent = [] ∧ ¬ (negative = true ∧ digitsValue whole = 0) := by
  simp only [Bool.and_eq_true, List.isEmpty_iff, Bool.not_eq_true', Bool.and_eq_false_iff,
    beq_eq_false_iff_ne, and_assoc, Classical.not_and_iff_not_or_not, Bool.not_eq_true, ne_eq]

theorem scanMagnitude_of_parts (negative : Bool) {whole fraction exponent rest : List Char}
    (h : Whole whole) (broken : Fraction fraction) (scaled : Exponent exponent)
    (next : Stops rest) :
    scanMagnitude negative (whole ++ fraction ++ exponent ++ rest) =
      if fraction = [] ∧ exponent = [] ∧ ¬ (negative = true ∧ digitsValue whole = 0) then
        some (.integer (if negative then -(digitsValue whole : Int) else digitsValue whole), rest)
      else
        some (.real (String.ofList (minus negative ++ whole ++ fraction ++ exponent)), rest) := by
  have afterWhole := broken.next (scaled.next next)
  rw [List.append_assoc, List.append_assoc, scanMagnitude]
  simp only [scanWhole_of_whole h afterWhole, scanFraction_of_fraction broken (scaled.next next),
    scanExponent_of_exponent scaled next, Option.bind_eq_bind, Option.bind_some, isInteger_iff]
  rfl

theorem scanNumber_minus (negative : Bool) {text : List Char} (next : Next (· ≠ '-') text) :
    scanNumber (minus negative ++ text) = scanMagnitude negative text := by
  cases negative with
  | true => rfl
  | false =>
    change scanNumber text = _
    unfold scanNumber
    split
    · exact (next '-' rfl rfl).elim
    · rfl

theorem Whole.next {whole : List Char} (h : Whole whole) (rest : List Char) :
    Next (· ≠ '-') (whole ++ rest) := by
  obtain ⟨c, tail, rfl⟩ := List.exists_cons_of_ne_nil h.1.1
  rintro _ ⟨⟩ rfl
  cases h.1.2 '-' List.mem_cons_self

theorem scanNumber_of_numeral {number : JsonNumber} {text rest : List Char}
    (h : Numeral number text) (next : Stops rest) :
    scanNumber (text ++ rest) = some (number, rest) := by
  cases h with
  | @integer negative whole h proper =>
    have scanned := scanMagnitude_of_parts negative h .none .none next
    rw [List.append_nil, List.append_nil, if_pos ⟨rfl, rfl, proper⟩] at scanned
    rw [List.append_assoc, scanNumber_minus negative (h.next rest), scanned]
  | @real negative whole fraction exponent h broken scaled proper =>
    have scanned := scanMagnitude_of_parts negative h broken scaled next
    rw [if_neg proper] at scanned
    simp only [List.append_assoc] at scanned ⊢
    rw [scanNumber_minus negative (h.next _), scanned]

theorem numeral_of_scanMagnitude {negative : Bool} {number : JsonNumber} {text rest : List Char}
    (h : scanMagnitude negative text = some (number, rest)) :
    ∃ written, Numeral number (minus negative ++ written) ∧ text = written ++ rest := by
  unfold scanMagnitude at h
  simp only [Option.bind_eq_bind, Option.bind_eq_some_iff, Prod.exists] at h
  obtain ⟨whole, _, scanned, fraction, _, broken, exponent, _, scaled, h⟩ := h
  obtain ⟨isWhole, rfl⟩ := whole_of_scanWhole scanned
  obtain ⟨isFraction, rfl⟩ := fraction_of_scanFraction broken
  obtain ⟨isExponent, rfl⟩ := exponent_of_scanExponent scaled
  simp only [isInteger_iff] at h
  split at h
  · rename_i proper
    cases h
    obtain ⟨rfl, rfl, proper⟩ := proper
    exact ⟨whole, .integer isWhole proper, rfl⟩
  · rename_i proper
    cases h
    have numeral := Numeral.real isWhole isFraction isExponent proper
    refine ⟨whole ++ (fraction ++ exponent), ?_, by simp only [List.append_assoc]⟩
    simp only [List.append_assoc] at numeral ⊢
    exact numeral

theorem numeral_of_scanNumber {number : JsonNumber} {text rest : List Char}
    (h : scanNumber text = some (number, rest)) :
    ∃ written, Numeral number written ∧ text = written ++ rest := by
  unfold scanNumber at h
  split at h
  · obtain ⟨written, numeral, rfl⟩ := numeral_of_scanMagnitude h
    exact ⟨_, numeral, rfl⟩
  · obtain ⟨written, numeral, rfl⟩ := numeral_of_scanMagnitude h
    exact ⟨_, numeral, rfl⟩

theorem Numeral.starts {number : JsonNumber} {text : List Char} (h : Numeral number text) :
    ∃ c tail, text = c :: tail ∧ (c = '-' ∨ isDigit c = true) := by
  have digit {whole : List Char} (negative : Bool) (h : Whole whole) (rest : List Char) :
      ∃ c tail, minus negative ++ (whole ++ rest) = c :: tail ∧ (c = '-' ∨ isDigit c = true) := by
    obtain ⟨c, tail, rfl⟩ := List.exists_cons_of_ne_nil h.1.1
    cases negative with
    | true => exact ⟨'-', _, rfl, .inl rfl⟩
    | false => exact ⟨c, _, rfl, .inr (h.1.2 c List.mem_cons_self)⟩
  cases h with
  | @integer negative _ h =>
    have starts := digit negative h []
    rwa [List.append_nil] at starts
  | real h =>
    simp only [List.append_assoc]
    exact digit _ h _

end RemoteQuery.Json
