import RemoteQuery.Proofs.TypeSizes

/-!
# What a declared type is taken for

The name before the first parenthesis decides: if it is the name of a base type, the text is taken
for that type, and any other text is kept under its whole name. What follows the parenthesis is not
looked at, except for the sizes of a decimal; so words behind the arguments are lost, and a text
such as `timestamp(3) with time zone` is taken for a plain timestamp.
-/
namespace RemoteQuery.SqlType

section Declared

variable {declared : String} {precision scale : Int}

theorem ofDeclared_of_simple {name : String} {base : SqlType}
    (listed : (name, base) ∈ simpleNames)
    (begins : BeginsWith name.toList (normalized declared)) :
    ofDeclared declared precision scale = base := by
  have known : ∀ entry ∈ simpleNames, entry.1.toList ∈ baseNames ∧
      entry.1.toList ≠ "decimal".toList ∧
      simpleNames.find? (fun other => other.1.toList == entry.1.toList) = some entry := by decide
  obtain ⟨named, other, found⟩ := known _ listed
  have split := begins.splitArguments_fst named
  unfold ofDeclared
  simp only [split, if_neg other, found]

theorem ofDeclared_of_decimal (begins : BeginsWith "decimal".toList (normalized declared)) :
    ∃ first second, Sized (normalized declared) precision scale first second ∧
      ∃ digits places, Clamps first second digits places ∧
        ofDeclared declared precision scale = decimal digits places := by
  have split := begins.splitArguments_fst List.mem_cons_self
  have clamped (first second : Int) : ∃ digits places, Clamps first second digits places ∧
      clampedDecimal first second = decimal digits places :=
    ⟨_, _, clampedDecimal_eq_iff.mp rfl, rfl⟩
  unfold ofDeclared
  simp only [split, if_true]
  cases sized : (splitArguments (normalized declared)).2.bind decimalArguments? with
  | some sizes =>
    obtain ⟨first, second⟩ := sizes
    obtain ⟨arguments, enclosed, read⟩ := Option.bind_eq_some_iff.mp sized
    exact ⟨first, second, .written (splitArguments_snd_eq_some_iff.mp enclosed)
      (decimalArguments?_eq_some_iff.mp read), clamped first second⟩
  | none =>
    refine ⟨precision, scale, .given ?_, clamped precision scale⟩
    intro arguments first second enclosed sizes
    rw [splitArguments_snd_eq_some_iff.mpr enclosed, Option.bind_some,
      decimalArguments?_eq_some_iff.mpr sizes] at sized
    cases sized

theorem ofDeclared_of_other
    (unknown : ∀ name ∈ baseNames, ¬ BeginsWith name (normalized declared)) :
    ofDeclared declared precision scale = .other (String.ofList (normalized declared)) := by
  have apart (name : List Char) (known : name ∈ baseNames) :
      (splitArguments (normalized declared)).1 ≠ name := fun split =>
    unknown name known (beginsWith_of_splitArguments (hasSolidEnds_normalized declared) split)
  have missing : simpleNames.find?
      (fun entry => entry.1.toList == (splitArguments (normalized declared)).1) = none := by
    refine List.find?_eq_none.mpr fun entry listed same => ?_
    exact apart _ (List.mem_cons_of_mem _ (List.mem_map_of_mem listed)) (beq_iff_eq.mp same).symm
  unfold ofDeclared
  simp only [if_neg (apart _ List.mem_cons_self), missing]

/-- The name decides; there is no fourth case. -/
theorem ofDeclared_cases (declared : String) :
    (∃ entry ∈ simpleNames, BeginsWith entry.1.toList (normalized declared)) ∨
      BeginsWith "decimal".toList (normalized declared) ∨
        ∀ name ∈ baseNames, ¬ BeginsWith name (normalized declared) := by
  by_cases known : ∃ name ∈ baseNames, BeginsWith name (normalized declared)
  · obtain ⟨name, listed, begins⟩ := known
    rcases List.mem_cons.mp listed with rfl | listed
    · exact .inr (.inl begins)
    · obtain ⟨entry, member, rfl⟩ := List.mem_map.mp listed
      exact .inl ⟨entry, member, begins⟩
  · exact .inr (.inr fun name listed begins => known ⟨name, listed, begins⟩)

theorem beginsWith_of_decimal {digits : Nat} {places : Int}
    (h : ofDeclared declared precision scale = .decimal digits places) :
    BeginsWith "decimal".toList (normalized declared) := by
  rcases ofDeclared_cases declared with ⟨entry, listed, begins⟩ | begins | unknown
  · have simple := isSimple_of_listed listed
    rw [← ofDeclared_of_simple listed begins, h] at simple
    cases simple
  · exact begins
  · rw [ofDeclared_of_other unknown] at h
    cases h

end Declared

/-- All parentheses are closed, each in its turn. -/
inductive Balanced : List Char → Prop
  | nil : Balanced []
  | char {c : Char} {rest : List Char} (plain : c ≠ '(' ∧ c ≠ ')') (balanced : Balanced rest) :
      Balanced (c :: rest)
  | group {inner rest : List Char} (within : Balanced inner) (balanced : Balanced rest) :
      Balanced ('(' :: (inner ++ ')' :: rest))

/-- The text is the name of a base type, alone or with one list of arguments that ends it. -/
inductive IsBaseType : List Char → Prop
  | alone {name : List Char} (known : name ∈ baseNames) : IsBaseType name
  | applied {name blanks arguments : List Char} (known : name ∈ baseNames)
      (gap : ∀ c ∈ blanks, Text.isBlank c = true) (balanced : Balanced arguments) :
      IsBaseType (name ++ blanks ++ '(' :: (arguments ++ [')']))

theorem IsBaseType.ends {text : List Char} (h : IsBaseType text) :
    text ∈ baseNames ∨ text.getLast? = some ')' := by
  cases h with
  | alone known => exact .inl known
  | @applied name blanks arguments known gap balanced =>
    right
    rw [← List.cons_append, ← List.append_assoc, List.getLast?_concat]

/-- A text is taken for a base type just when it begins with the name of one and goes on, if it
does, with a parenthesis: for the type of that name, whatever the parenthesis encloses and whatever
stands behind it. Any other text is kept as a whole, and its values stay text. -/
theorem declared_type_of_name (declared : String) (precision scale : Int) :
    ((∀ name, ofDeclared declared precision scale ≠ .other name) ↔
      ∃ name ∈ baseNames, BeginsWith name (normalized declared)) ∧
    (∀ name base, (name, base) ∈ simpleNames → BeginsWith name.toList (normalized declared) →
      ofDeclared declared precision scale = base) ∧
    (BeginsWith "decimal".toList (normalized declared) →
      ∃ digits places, ofDeclared declared precision scale = .decimal digits places) ∧
    ((∀ name ∈ baseNames, ¬ BeginsWith name (normalized declared)) →
      ofDeclared declared precision scale = .other (String.ofList (normalized declared)) ∧
        (ofDeclared declared precision scale).arrow = .utf8) := by
  have sized (begins : BeginsWith "decimal".toList (normalized declared)) :
      ∃ digits places, ofDeclared declared precision scale = .decimal digits places := by
    obtain ⟨_, _, _, digits, places, _, same⟩ := ofDeclared_of_decimal begins
    exact ⟨digits, places, same⟩
  refine ⟨?_, fun _ _ => ofDeclared_of_simple, sized, ?_⟩
  · constructor
    · intro base
      by_contra unknown
      exact base _ (ofDeclared_of_other fun name listed begins => unknown ⟨name, listed, begins⟩)
    · rintro ⟨name, listed, begins⟩ other same
      rcases List.mem_cons.mp listed with rfl | listed
      · obtain ⟨digits, places, decimal⟩ := sized begins
        cases same.symm.trans decimal
      · obtain ⟨entry, member, rfl⟩ := List.mem_map.mp listed
        have simple := isSimple_of_listed member
        rw [← ofDeclared_of_simple member begins] at simple
        exact nomatch (congrArg isSimple same).symm.trans simple
  · intro unknown
    have same := @ofDeclared_of_other declared precision scale unknown
    refine ⟨same, ?_⟩
    rw [same]
    rfl

/-- Without arguments the same words are kept. -/
theorem declared_type_of_name_zoned :
    ofDeclared "timestamp(3) with time zone" 0 0 = .timestamp ∧
      ofDeclared "timestamp with time zone" 0 0 = .other "timestamp with time zone" ∧
      (ofDeclared "timestamp with time zone" 0 0).arrow = .utf8 := by
  have sized : normalized "timestamp(3) with time zone" =
      "timestamp".toList ++ [] ++ '(' :: "3) with time zone".toList := by decide
  have whole : normalized "timestamp with time zone" = "timestamp with time zone".toList := by
    decide
  have begins : BeginsWith "timestamp".toList (normalized "timestamp(3) with time zone") := by
    rw [sized]
    exact .opened nofun
  have unknown : ∀ name ∈ baseNames, ¬ BeginsWith name (normalized "timestamp with time zone") := by
    have apart : (splitArguments (normalized "timestamp with time zone")).1 ∉ baseNames := by decide
    intro name known begins
    rw [begins.splitArguments_fst known] at apart
    exact apart known
  obtain ⟨_, simple, _, _⟩ := declared_type_of_name "timestamp(3) with time zone" 0 0
  obtain ⟨_, _, _, kept⟩ := declared_type_of_name "timestamp with time zone" 0 0
  obtain ⟨same, text⟩ := kept unknown
  rw [whole, String.ofList_toList] at same
  exact ⟨simple "timestamp" .timestamp (by decide) begins, same, text⟩

/-- The words behind the arguments tell that it is another type, and they are lost. -/
theorem not_whole_name_kept :
    ¬ ∀ declared precision scale, ¬ IsBaseType (normalized declared) →
      ofDeclared declared precision scale = .other (String.ofList (normalized declared)) ∧
        (ofDeclared declared precision scale).arrow = .utf8 := by
  intro kept
  have other : ¬ IsBaseType (normalized "timestamp(3) with time zone") := by
    have last : (normalized "timestamp(3) with time zone").getLast? = some 'e' := by decide
    have unknown : normalized "timestamp(3) with time zone" ∉ baseNames := by decide
    intro base
    rcases base.ends with known | closed
    · exact unknown known
    · cases last.symm.trans closed
  have taken : ofDeclared "timestamp(3) with time zone" 0 0 = .timestamp := by decide
  have same := (kept _ 0 0 other).1
  rw [taken] at same
  cases same

end RemoteQuery.SqlType
