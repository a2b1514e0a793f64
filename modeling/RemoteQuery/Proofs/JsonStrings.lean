import RemoteQuery.Json.Token

/-!
# Strings of JSON

A string is made of characters that stand for themselves and of escapes, and what it denotes is the
text whose units they are, if there is one. The scanner takes the inside of a string up to its
closing quote, and joins the halves of surrogate pairs.
-/
namespace RemoteQuery.Json

/-- The inside of a string, with the units that it stands for. -/
inductive Body : List Char → List Nat → Prop
  | nil : Body [] []
  | plain {c : Char} {body : List Char} {units : List Nat} (unescaped : c ≠ '"' ∧ c ≠ '\\')
      (printed : 0x20 ≤ c.toNat) (rest : Body body units) : Body (c :: body) (c.toNat :: units)
  | short {letter c : Char} {body : List Char} {units : List Nat}
      (named : shortEscape? letter = some c) (rest : Body body units) :
      Body ('\\' :: letter :: body) (c.toNat :: units)
  | numbered {x y z w : Char} {unit : Nat} {body : List Char} {units : List Nat}
      (digits : hexUnit? x y z w = some unit) (rest : Body body units) :
      Body ('\\' :: 'u' :: x :: y :: z :: w :: body) (unit :: units)

/-- The characters of units: one for each unit that is a character, and one for each two halves. -/
inductive Joins : List Nat → List Char → Prop
  | nil : Joins [] []
  | one {c : Char} {units : List Nat} {text : List Char} (rest : Joins units text) :
      Joins (c.toNat :: units) (c :: text)
  | two {high low : Nat} {units : List Nat} {text : List Char} (first : isHighSurrogate high = true)
      (second : isLowSurrogate low = true) (rest : Joins units text) :
      Joins (high :: low :: units) (joinPair high low :: text)

/-- What units denote: a text if they join to one. -/
def Denotes (units : List Nat) : Option String → Prop
  | some text => Joins units text.toList
  | none => ∀ text, ¬ Joins units text

theorem scanString_quote (units : List Nat) (rest : List Char) :
    scanString units ('"' :: rest) = some (units.reverse, rest) := by
  rw [scanString.eq_def]
  rfl

theorem scanString_plain (units : List Nat) {c : Char} (rest : List Char)
    (unescaped : c ≠ '"' ∧ c ≠ '\\') (printed : 0x20 ≤ c.toNat) :
    scanString units (c :: rest) = scanString (c.toNat :: units) rest := by
  rw [scanString.eq_def]
  simp only [if_neg unescaped.1, if_neg unescaped.2, if_neg (Nat.not_lt.mpr printed)]

theorem scanString_short (units : List Nat) {letter c : Char} (rest : List Char)
    (named : shortEscape? letter = some c) :
    scanString units ('\\' :: letter :: rest) = scanString (c.toNat :: units) rest := by
  have other : letter ≠ 'u' := by
    rintro rfl
    cases named
  rw [scanString.eq_def]
  simp only [if_neg (show '\\' ≠ '"' by decide), if_pos, if_neg other, named]

theorem scanString_numbered (units : List Nat) {x y z w : Char} {unit : Nat} (rest : List Char)
    (digits : hexUnit? x y z w = some unit) :
    scanString units ('\\' :: 'u' :: x :: y :: z :: w :: rest) =
      scanString (unit :: units) rest := by
  rw [scanString.eq_def]
  simp only [if_neg (show '\\' ≠ '"' by decide), if_pos, digits]

theorem reverse_cons_append {α : Type} (a : α) (before after : List α) :
    (a :: before).reverse ++ after = before.reverse ++ a :: after := by
  rw [List.reverse_cons, ← List.append_cons]

theorem scanString_of_body {body : List Char} {new : List Nat} (h : Body body new)
    (units : List Nat) (rest : List Char) :
    scanString units (body ++ '"' :: rest) = some (units.reverse ++ new, rest) := by
  induction h generalizing units with
  | nil => rw [List.nil_append, scanString_quote, List.append_nil]
  | plain unescaped printed _ ih =>
    rw [List.cons_append, scanString_plain _ _ unescaped printed, ih, reverse_cons_append]
  | short named _ ih =>
    rw [List.cons_append, List.cons_append, scanString_short _ _ named, ih, reverse_cons_append]
  | numbered digits _ ih =>
    simp only [List.cons_append]
    rw [scanString_numbered _ _ digits, ih, reverse_cons_append]

theorem body_of_scanString {units found : List Nat} {text rest : List Char}
    (h : scanString units text = some (found, rest)) :
    ∃ body new, Body body new ∧ text = body ++ '"' :: rest ∧ found = units.reverse ++ new := by
  fun_induction scanString units text with
  | case2 units rest =>
    cases h
    exact ⟨[], [], .nil, rfl, (List.append_nil _).symm⟩
  | case4 units x y z w rest unit digits _ ih =>
    obtain ⟨body, new, written, rfl, rfl⟩ := ih h
    exact ⟨_, _, .numbered digits written, rfl, reverse_cons_append unit units new⟩
  | case7 units letter rest _ c named _ ih =>
    obtain ⟨body, new, written, rfl, rfl⟩ := ih h
    exact ⟨_, _, .short named written, rfl, reverse_cons_append c.toNat units new⟩
  | case10 units c rest noQuote noEscape printed ih =>
    obtain ⟨body, new, written, rfl, rfl⟩ := ih h
    exact ⟨_, _, .plain ⟨noQuote, noEscape⟩ (Nat.not_lt.mp printed) written, rfl,
      reverse_cons_append c.toNat units new⟩
  | _ => cases h

theorem not_surrogate (c : Char) :
    isHighSurrogate c.toNat = false ∧ isLowSurrogate c.toNat = false := by
  have valid : c.toNat < 0xd800 ∨ 0xdfff < c.toNat ∧ c.toNat < 0x110000 := c.valid
  simp only [isHighSurrogate, isLowSurrogate, Bool.and_eq_false_iff, decide_eq_false_iff_not]
  omega

theorem joinUnits_of_joins {units : List Nat} {text : List Char} (h : Joins units text)
    (before : List Char) : joinUnits before units = some (before.reverse ++ text) := by
  induction h generalizing before with
  | nil => rw [joinUnits, List.append_nil]
  | @one c units text _ ih =>
    rw [joinUnits.eq_def]
    simp only [(not_surrogate c).1, (not_surrogate c).2, Bool.false_eq_true, if_false,
      Char.ofNat_toNat, ih, reverse_cons_append]
  | @two high low units text first second _ ih =>
    have other : isLowSurrogate high = false := by
      simp only [isHighSurrogate, Bool.and_eq_true, decide_eq_true_eq] at first
      simp only [isLowSurrogate, Bool.and_eq_false_iff, decide_eq_false_iff_not]
      omega
    rw [joinUnits.eq_def]
    simp only [other, first, second, Bool.false_eq_true, if_false, if_true, ih, reverse_cons_append]

theorem toNat_ofNat_unit {unit : Nat} (bound : unit < 0x110000) (low : isLowSurrogate unit = false)
    (high : isHighSurrogate unit = false) : (Char.ofNat unit).toNat = unit := by
  simp only [isLowSurrogate, isHighSurrogate, Bool.and_eq_false_iff, decide_eq_false_iff_not]
    at low high
  have valid : unit.isValidChar := by
    simp only [Nat.isValidChar]
    omega
  rw [Char.ofNat, dif_pos valid]
  rfl

theorem joins_of_joinUnits {units : List Nat} {before text : List Char}
    (bound : ∀ unit ∈ units, unit < 0x110000) (h : joinUnits before units = some text) :
    ∃ new, Joins units new ∧ text = before.reverse ++ new := by
  fun_induction joinUnits before units with
  | case1 before =>
    cases h
    exact ⟨[], .nil, (List.append_nil _).symm⟩
  | case3 before high notLow first low units second ih =>
    have rest := (List.forall_mem_cons.mp (List.forall_mem_cons.mp bound).2).2
    obtain ⟨new, joins, rfl⟩ := ih rest h
    exact ⟨_, .two first second joins, reverse_cons_append _ _ _⟩
  | case6 before unit units notLow notHigh ih =>
    obtain ⟨here, rest⟩ := List.forall_mem_cons.mp bound
    obtain ⟨new, joins, rfl⟩ := ih rest h
    have same := toNat_ofNat_unit here (Bool.eq_false_iff.mpr notLow)
      (Bool.eq_false_iff.mpr notHigh)
    have joined : Joins ((Char.ofNat unit).toNat :: units) (Char.ofNat unit :: new) := .one joins
    rw [same] at joined
    exact ⟨_, joined, reverse_cons_append _ _ _⟩
  | _ => cases h

theorem Body.bound {body : List Char} {units : List Nat} (h : Body body units) :
    ∀ unit ∈ units, unit < 0x110000 := by
  have character (c : Char) : c.toNat < 0x110000 := by
    have valid : c.toNat < 0xd800 ∨ 0xdfff < c.toNat ∧ c.toNat < 0x110000 := c.valid
    omega
  have digit {c : Char} {n : Nat} (h : Text.Hex.value? c = some n) : n < 16 :=
    (Text.Hex.value?_eq_some_iff.mp h).1
  induction h with
  | nil => nofun
  | plain _ _ _ ih | short _ _ ih => exact List.forall_mem_cons.mpr ⟨character _, ih⟩
  | numbered digits _ ih =>
    refine List.forall_mem_cons.mpr ⟨?_, ih⟩
    simp only [hexUnit?, Option.bind_eq_bind, Option.bind_eq_some_iff] at digits
    obtain ⟨x, hx, y, hy, z, hz, w, hw, whole⟩ := digits
    cases whole
    have := digit hx
    have := digit hy
    have := digit hz
    have := digit hw
    omega

/-- The text of a string is what the units of its inside denote. -/
theorem denotes_iff {body : List Char} {units : List Nat} (h : Body body units)
    {text : Option String} :
    Denotes units text ↔ (joinUnits [] units).map String.ofList = text := by
  cases joined : joinUnits [] units with
  | none =>
    have alone (text : List Char) : ¬ Joins units text := fun joins =>
      nomatch joined.symm.trans (joinUnits_of_joins joins [])
    cases text with
    | none => exact ⟨fun _ => rfl, fun _ => alone⟩
    | some text => exact ⟨fun joins => (alone _ joins).elim, nofun⟩
  | some chars =>
    obtain ⟨_, joins, rfl⟩ := joins_of_joinUnits h.bound joined
    rw [Option.map_some]
    cases text with
    | none => exact ⟨fun alone => (alone chars joins).elim, nofun⟩
    | some text =>
      rw [Option.some.injEq]
      constructor
      · intro other
        have same := joined.symm.trans (joinUnits_of_joins other [])
        rw [List.reverse_nil, List.nil_append, Option.some.injEq] at same
        rw [same, String.ofList_toList]
      · rintro rfl
        rw [Denotes, String.toList_ofList]
        exact joins

end RemoteQuery.Json
