/-!
# Blank characters

White space is the standard's property of that name: twenty-five characters, most of them outside
ASCII. A text is trimmed of them at both ends before it is read.
-/
namespace RemoteQuery.Text

def blankRanges : List (Nat × Nat) := [
  (0x9, 0xd), (0x20, 0x20), (0x85, 0x85), (0xa0, 0xa0), (0x1680, 0x1680), (0x2000, 0x200a),
  (0x2028, 0x2029), (0x202f, 0x202f), (0x205f, 0x205f), (0x3000, 0x3000)]

/-- A code point lies in one of the ranges, ends included. -/
def covers (ranges : List (Nat × Nat)) (point : Nat) : Bool :=
  ranges.any fun range => range.1 ≤ point && point ≤ range.2

def isBlank (c : Char) : Bool := covers blankRanges c.toNat

def trimStart (text : List Char) : List Char := text.dropWhile isBlank

def trimEnd (text : List Char) : List Char := (text.reverse.dropWhile isBlank).reverse

def trim (text : List Char) : List Char := trimEnd (trimStart text)

def trimmed (text : String) : String := String.ofList (trim text.toList)

/-- Nothing is left of the text when it is trimmed. -/
def isBlankText (text : String) : Bool := (trim text.toList).isEmpty

theorem covers_iff {ranges : List (Nat × Nat)} {point : Nat} :
    covers ranges point = true ↔ ∃ range ∈ ranges, range.1 ≤ point ∧ point ≤ range.2 := by
  simp [covers]

theorem dropWhile_eq_nil_iff {p : Char → Bool} {text : List Char} :
    text.dropWhile p = [] ↔ ∀ c ∈ text, p c = true := by
  induction text with
  | nil => simp
  | cons c text ih => by_cases h : p c = true <;> simp [h, ih]

/-- Neither the first nor the last character is blank. -/
structure HasSolidEnds (text : List Char) : Prop where
  first : ∀ c, text.head? = some c → isBlank c = false
  last : ∀ c, text.getLast? = some c → isBlank c = false

theorem hasSolidEnds_of_solid {text : List Char} (solid : ∀ c ∈ text, isBlank c = false) :
    HasSolidEnds text :=
  ⟨fun c first => solid c (List.mem_of_head? first),
    fun c last => solid c (List.mem_of_getLast? last)⟩

theorem hasSolidEnds_append {front middle back : List Char} (nonempty : front ≠ [])
    (start : ∀ c ∈ front, isBlank c = false) (ended : back ≠ [])
    (finish : ∀ c ∈ back, isBlank c = false) : HasSolidEnds (front ++ middle ++ back) := by
  constructor
  · intro c first
    cases front with
    | nil => exact (nonempty rfl).elim
    | cons d front =>
      have same : d = c := Option.some.inj first
      rw [← same]
      exact start d List.mem_cons_self
  · intro c last
    rw [List.getLast?_append, List.getLast?_eq_some_getLast ended, Option.some_or] at last
    cases last
    exact finish _ (List.getLast_mem ended)

theorem dropWhile_isBlank_of_head {text : List Char}
    (solid : ∀ c, text.head? = some c → isBlank c = false) : text.dropWhile isBlank = text := by
  cases text with
  | nil => rfl
  | cons c text =>
    rw [List.dropWhile_cons_of_neg]
    rw [solid c rfl]
    decide

/-- Trimming takes away just the blanks around a text with solid ends. -/
theorem HasSolidEnds.trim_padded {before text after : List Char} (h : HasSolidEnds text)
    (start : ∀ c ∈ before, isBlank c = true) (finish : ∀ c ∈ after, isBlank c = true) :
    trim (before ++ text ++ after) = text := by
  have ending : trimEnd (text ++ after) = text := by
    have finish : ∀ c ∈ after.reverse, isBlank c = true := fun c member =>
      finish c (List.mem_reverse.mp member)
    have solid : ∀ c, text.reverse.head? = some c → isBlank c = false := by
      intro c last
      rw [List.head?_reverse] at last
      exact h.last c last
    rw [trimEnd, List.reverse_append, List.dropWhile_append_of_pos finish,
      dropWhile_isBlank_of_head solid, List.reverse_reverse]
  rw [trim, trimStart, List.append_assoc, List.dropWhile_append_of_pos start]
  cases text with
  | nil =>
    rw [List.nil_append, dropWhile_eq_nil_iff.mpr finish]
    rfl
  | cons c text =>
    have first : ¬ isBlank c = true := by
      rw [h.first c rfl]
      decide
    rw [List.cons_append, List.dropWhile_cons_of_neg first, ← List.cons_append, ending]

theorem trim_of_padded {before text after : List Char} (start : ∀ c ∈ before, isBlank c = true)
    (finish : ∀ c ∈ after, isBlank c = true) (solid : ∀ c ∈ text, isBlank c = false) :
    trim (before ++ text ++ after) = text :=
  (hasSolidEnds_of_solid solid).trim_padded start finish

theorem HasSolidEnds.trim_eq {text : List Char} (h : HasSolidEnds text) : trim text = text := by
  have padded : trim ([] ++ text ++ []) = text := h.trim_padded nofun nofun
  rwa [List.nil_append, List.append_nil] at padded

theorem exists_blanks_start (text : List Char) :
    ∃ blanks, (∀ c ∈ blanks, isBlank c = true) ∧ text = blanks ++ trimStart text :=
  ⟨text.takeWhile isBlank, List.all_eq_true.mp List.all_takeWhile,
    List.takeWhile_append_dropWhile.symm⟩

theorem exists_blanks_end (text : List Char) :
    ∃ blanks, (∀ c ∈ blanks, isBlank c = true) ∧ text = trimEnd text ++ blanks := by
  obtain ⟨blanks, blank, split⟩ := exists_blanks_start text.reverse
  refine ⟨blanks.reverse, fun c member => blank c (List.mem_reverse.mp member), ?_⟩
  rw [List.reverse_eq_iff, List.reverse_append] at split
  exact split

/-- Blanks are all that is trimmed. -/
theorem mem_trim_or_isBlank {text : List Char} {c : Char} (h : c ∈ text) :
    c ∈ trim text ∨ isBlank c = true := by
  obtain ⟨before, start, split⟩ := exists_blanks_start text
  obtain ⟨after, finish, kept⟩ := exists_blanks_end (trimStart text)
  rw [split, kept, List.mem_append, List.mem_append] at h
  rcases h with member | member | member
  · exact .inr (start c member)
  · exact .inl member
  · exact .inr (finish c member)

theorem hasSolidEnds_trim (text : List Char) : HasSolidEnds (trim text) := by
  have start := List.head?_dropWhile_not isBlank text
  have finish := List.head?_dropWhile_not isBlank (trimStart text).reverse
  constructor
  · intro c first
    -- What is taken from the end leaves the first character where it was.
    have kept : (trimStart text).head? = some c := by
      obtain ⟨after, _, whole⟩ := exists_blanks_end (trimStart text)
      rw [whole]
      change (trim text ++ after).head? = some c
      rw [List.head?_append, first, Option.some_or]
    rw [trimStart] at kept
    rw [kept] at start
    exact start
  · intro c last
    rw [trim, trimEnd, List.getLast?_reverse] at last
    rw [last] at finish
    exact finish

/-- There are no blanks between the space and the delete character. -/
theorem isBlank_of_graphic {c : Char} (first : 0x20 < c.toNat) (last : c.toNat < 0x7f) :
    isBlank c = false := by
  rw [Bool.eq_false_iff]
  intro blank
  obtain ⟨range, listed, low, high⟩ := covers_iff.mp blank
  have apart : ∀ range ∈ blankRanges, range.2 ≤ 0x20 ∨ 0x7f ≤ range.1 := by decide
  have := apart range listed
  omega

end RemoteQuery.Text
