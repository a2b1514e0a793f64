import Mathlib.Data.List.Forall2
import RemoteQuery.Text.Casing

/-!
# Lower case is final

Every character of a lower-case form is its own lower-case form, so a text in lower case stays as it
is. The capital sigma needs its context only as long as it is there, and its two small letters are
final both. What is not blank does not become blank, so a trimmed text is trimmed in lower case.

The table is read range by range: the characters that a range leads to are not themselves moved,
because they lie before or behind each range, or between the characters that it moves.
-/
namespace RemoteQuery.Text

/-- Lower case leaves the character as it is. -/
def IsSettled (c : Char) : Prop := lowerChar c = [c]

instance (c : Char) : Decidable (IsSettled c) := inferInstanceAs (Decidable (_ = _))

/-- No code point from `low` to `high` is moved by the range; if they are every other one, a range
that moves every other one may lie between them. -/
def leaves (low high : Nat) (alternate : Bool) : Nat × Nat × Nat × Int → Bool
  | (first, last, step, _) =>
    Nat.blt high first || Nat.blt last low ||
      (alternate && Nat.beq step 2 && Nat.beq ((low + first) % 2) 1)

/-- What a range leads to is not moved again. -/
def isFinal : Nat × Nat × Nat × Int → Bool
  | (first, last, step, distance) =>
    lowerRanges.all
      (leaves (first + distance).toNat (last + distance).toNat
        (Nat.beq step 2 || Nat.beq first last))

/-- A range leads to characters, to none that is blank or has a form of its own, and within ASCII to
small letters. -/
def isSound : Nat × Nat × Nat × Int → Bool
  | (first, last, step, distance) =>
    let low := (first + distance).toNat
    let high := (last + distance).toNat
    (step == 1 || step == 2)
      && (Nat.blt high 0xd800 || (Nat.blt 0xdfff low && Nat.blt high 0x110000))
      && (Nat.blt 0x7f low || (Nat.ble 0x61 low && Nat.ble high 0x7a))
      && (Nat.blt high 0x130 || Nat.blt 0x130 low)
      && blankRanges.all fun (first, last) => Nat.blt high first || Nat.blt last low

theorem isFinal_lowerRanges : lowerRanges.all isFinal = true := by decide +kernel

theorem isSound_lowerRanges : lowerRanges.all isSound = true := by decide +kernel

/-- A range moves the code point to the target. -/
inductive Moves (point : Nat) : Nat → Prop
  | range {first last step : Nat} {distance : Int}
      (listed : (first, last, step, distance) ∈ lowerRanges) (low : first ≤ point)
      (high : point ≤ last) (regular : (point - first) % step = 0) :
      Moves point (point + distance).toNat

theorem Moves.sound {point target : Nat} (h : Moves point target) :
    target.isValidChar ∧ target ≠ 0x130 ∧ (0x7f < target ∨ 0x61 ≤ target ∧ target ≤ 0x7a) ∧
      covers blankRanges target = false := by
  cases h with
  | range listed low high regular =>
    have sound := List.all_eq_true.mp isSound_lowerRanges _ listed
    simp only [isSound, Bool.and_eq_true, Bool.or_eq_true, Nat.blt_eq, Nat.ble_eq, beq_iff_eq,
      List.all_eq_true] at sound
    obtain ⟨⟨⟨⟨_, valid⟩, letter⟩, other⟩, solid⟩ := sound
    refine ⟨?_, by omega, by omega, ?_⟩
    · simp only [Nat.isValidChar]
      omega
    · rw [Bool.eq_false_iff]
      intro blank
      obtain ⟨blanks, member, least, most⟩ := covers_iff.mp blank
      have apart := solid blanks member
      omega

/-- What a range leads to is moved by none. -/
theorem Moves.final {point target next : Nat} (h : Moves point target) : ¬ Moves target next := by
  intro again
  cases h with
  | @range first last step distance listed low high regular =>
    have sound := List.all_eq_true.mp isSound_lowerRanges _ listed
    have final := List.all_eq_true.mp isFinal_lowerRanges _ listed
    simp only [isSound, Bool.and_eq_true, Bool.or_eq_true, Nat.blt_eq, Nat.ble_eq,
      beq_iff_eq] at sound
    obtain ⟨⟨⟨⟨steps, _⟩, positive⟩, _⟩, _⟩ := sound
    cases again with
    | @range begins ends stride _ member least most even =>
      have past := List.all_eq_true.mp final _ member
      simp only [leaves, Bool.or_eq_true, Bool.and_eq_true, Nat.blt_eq, Nat.beq_eq] at past
      rcases past with (before | behind) | ⟨⟨alternate, two⟩, odd⟩
      · omega
      · omega
      · subst two
        rcases steps with rfl | rfl
        · omega
        · omega

theorem lowerChar_of_not_ascii {c : Char} (other : c ≠ 'İ') (high : 0x80 ≤ c.toNat) :
    lowerChar c = [c] ∧ (∀ target, ¬ Moves c.toNat target) ∨
      ∃ target, Moves c.toNat target ∧ lowerChar c = [Char.ofNat target] := by
  rw [lowerChar, if_neg other, if_neg (Nat.not_lt.mpr high)]
  split
  · rename_i found
    have holds := List.find?_some found
    simp only [Bool.and_eq_true, decide_eq_true_eq, beq_iff_eq] at holds
    exact .inr ⟨_, .range (List.mem_of_find?_eq_some found) holds.1.1 holds.1.2 holds.2, rfl⟩
  · rename_i missing
    refine .inl ⟨rfl, ?_⟩
    intro target moved
    cases moved with
    | range listed low high regular =>
      have fails := List.find?_eq_none.mp missing _ listed
      simp [low, high, regular] at fails

theorem isSettled_ascii : ∀ n < 0x80, IsSettled (Char.ofNat n).toLower ∧
    isBlank (Char.ofNat n).toLower = isBlank (Char.ofNat n) := by decide

theorem Moves.isSettled {point target : Nat} (h : Moves point target) :
    IsSettled (Char.ofNat target) ∧ isBlank (Char.ofNat target) = false := by
  obtain ⟨valid, other, letter, solid⟩ := h.sound
  have same : (Char.ofNat target).toNat = target := by
    rw [Char.ofNat, dif_pos valid]
    rfl
  refine ⟨?_, by rwa [isBlank, same]⟩
  rcases letter with high | ⟨least, most⟩
  · have undotted : Char.ofNat target ≠ 'İ' := by
      intro dotted
      rw [dotted] at same
      exact other same.symm
    rcases lowerChar_of_not_ascii undotted (by omega) with ⟨settled, _⟩ | ⟨next, again, _⟩
    · exact settled
    · rw [same] at again
      exact (h.final again).elim
  · have letters : ∀ n < 0x7b, 0x61 ≤ n → IsSettled (Char.ofNat n) := by decide
    exact letters target (by omega) least

/-- The characters of a lower-case form are their own lower-case forms, and none of them is blank
if the character is not. -/
theorem mem_lowerChar {c d : Char} (h : d ∈ lowerChar c) :
    IsSettled d ∧ (isBlank c = false → isBlank d = false) := by
  by_cases dotted : c = 'İ'
  · subst dotted
    have form : lowerChar 'İ' = ['i', '\u0307'] := rfl
    rw [form] at h
    rcases List.mem_pair.mp h with rfl | rfl
    · exact ⟨by decide, fun _ => by decide⟩
    · exact ⟨by decide, fun _ => by decide⟩
  · rcases Nat.lt_or_ge c.toNat 0x80 with ascii | high
    · rw [lowerChar, if_neg dotted, if_pos ascii, List.mem_singleton] at h
      subst h
      have settled := isSettled_ascii c.toNat ascii
      rw [Char.ofNat_toNat] at settled
      exact ⟨settled.1, fun solid => settled.2.trans solid⟩
    · rcases lowerChar_of_not_ascii dotted high with ⟨same, _⟩ | ⟨target, moved, form⟩
      · rw [same, List.mem_singleton] at h
        subst h
        exact ⟨same, id⟩
      · rw [form, List.mem_singleton] at h
        subst h
        exact ⟨moved.isSettled.1, fun _ => moved.isSettled.2⟩

theorem lowerChar_ne_nil (c : Char) : lowerChar c ≠ [] := by
  unfold lowerChar
  split
  · decide
  · split
    · simp
    · split <;> simp

/-- The forms of a character in a text: at the end of a word the capital sigma has another one. -/
inductive LowerForm (c : Char) : List Char → Prop
  | char : LowerForm c (lowerChar c)
  | finalSigma (sigma : c = 'Σ') : LowerForm c ['ς']

theorem LowerForm.ne_nil {c : Char} {form : List Char} (h : LowerForm c form) : form ≠ [] := by
  cases h with
  | char => exact lowerChar_ne_nil c
  | finalSigma => simp

theorem LowerForm.mem {c d : Char} {form : List Char} (h : LowerForm c form) (member : d ∈ form) :
    IsSettled d ∧ (isBlank c = false → isBlank d = false) := by
  cases h with
  | char => exact mem_lowerChar member
  | finalSigma =>
    rw [List.mem_singleton] at member
    subst member
    exact ⟨by decide, fun _ => by decide⟩

/-- Each step of the reading puts a form of the next character behind what it has. -/
theorem exists_lowerForm (before lowered : List Char) (c : Char) (after : List Char) :
    ∃ form, LowerForm c form ∧ lowerAfter before lowered (c :: after) =
      lowerAfter (c :: before) (form.reverse ++ lowered) after := by
  rw [lowerAfter]
  by_cases sigma : c = 'Σ'
  · subst sigma
    have small : lowerChar 'Σ' = ['σ'] := by decide
    by_cases ends : (nextIsCased before && !nextIsCased after) = true
    · exact ⟨['ς'], .finalSigma rfl, by simp only [ends, if_true]⟩
    · exact ⟨['σ'], small ▸ .char, by simp only [ends, if_true]; rfl⟩
  · exact ⟨lowerChar c, .char, by simp only [if_neg sigma]⟩

theorem lowerAfter_forms (before lowered text : List Char) :
    ∃ forms, List.Forall₂ LowerForm text forms ∧
      lowerAfter before lowered text = lowered.reverse ++ forms.flatten := by
  induction text generalizing before lowered with
  | nil => exact ⟨[], .nil, by simp [lowerAfter]⟩
  | cons c after ih =>
    obtain ⟨form, taken, step⟩ := exists_lowerForm before lowered c after
    obtain ⟨forms, rest, same⟩ := ih (c :: before) (form.reverse ++ lowered)
    exact ⟨form :: forms, .cons taken rest, by simp [step, same]⟩

/-- A text in lower case is the forms of its characters, one after the other. -/
theorem lower_forms (text : List Char) :
    ∃ forms, List.Forall₂ LowerForm text forms ∧ lower text = forms.flatten :=
  lowerAfter_forms [] [] text

theorem isSettled_of_mem_lower {text : List Char} {d : Char} (h : d ∈ lower text) :
    IsSettled d := by
  obtain ⟨forms, taken, same⟩ := lower_forms text
  rw [same] at h
  obtain ⟨form, listed, member⟩ := List.mem_flatten.mp h
  obtain ⟨index, inside, rfl⟩ := List.getElem_of_mem listed
  have held := taken.get (taken.length_eq ▸ inside) inside
  exact (held.mem member).1

theorem lower_of_settled {text : List Char} (settled : ∀ c ∈ text, IsSettled c) :
    lower text = text := by
  obtain ⟨forms, taken, same⟩ := lower_forms text
  rw [same]
  clear same
  induction taken with
  | nil => rfl
  | @cons c form _ _ head _ ih =>
    obtain ⟨here, rest⟩ := List.forall_mem_cons.mp settled
    have alone : form = [c] := by
      cases head with
      | char => exact here
      | finalSigma sigma =>
        subst sigma
        exact absurd here (by decide)
    rw [List.flatten_cons, ih rest, alone, List.singleton_append]

/-- Lower case is reached at once. -/
theorem lower_lower (text : List Char) : lower (lower text) = lower text :=
  lower_of_settled fun _ member => isSettled_of_mem_lower member

theorem HasSolidEnds.lower {text : List Char} (h : HasSolidEnds text) :
    HasSolidEnds (lower text) := by
  obtain ⟨forms, taken, same⟩ := lower_forms text
  rw [same]
  constructor
  · intro d first
    cases taken with
    | nil => cases first
    | @cons c form _ _ head _ =>
      have member : d ∈ form := by
        rw [List.flatten_cons, List.head?_append_of_ne_nil _ head.ne_nil] at first
        exact List.mem_of_head? first
      exact (head.mem member).2 (h.first c rfl)
  · intro d last
    have backwards := List.forall₂_reverse_iff.mpr taken
    cases turned : text.reverse with
    | nil =>
      rw [turned, List.forall₂_nil_left_iff, List.reverse_eq_nil_iff] at backwards
      rw [backwards] at last
      cases last
    | cons c before =>
      rw [turned, List.forall₂_cons_left_iff] at backwards
      obtain ⟨form, rest, held, _, split⟩ := backwards
      rw [List.reverse_eq_iff, List.reverse_cons] at split
      rw [split, List.flatten_concat, List.getLast?_append_of_ne_nil _ held.ne_nil] at last
      apply (held.mem (List.mem_of_getLast? last)).2
      apply h.last
      rw [← List.head?_reverse, turned]
      rfl

end RemoteQuery.Text
