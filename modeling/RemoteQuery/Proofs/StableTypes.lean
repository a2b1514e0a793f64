import RemoteQuery.Proofs.DeclaredTypes
import RemoteQuery.Proofs.PrintedNumerals

/-!
# Types that declare themselves

A type is displayed as a text that declares it, whatever sizes go with the text. So what a text is
taken for is settled once it has been displayed, and its sizes are within the bounds from then on.
-/
namespace RemoteQuery.SqlType

theorem isSettled_of_isDigit {c : Char} (h : Number.isDigit c = true) : Text.IsSettled c := by
  have digits : ∀ n < 58, 48 ≤ n → Text.IsSettled (Char.ofNat n) := by decide
  obtain ⟨least, most⟩ := Number.isDigit_iff.mp h
  have settled := digits c.toNat (by omega) least
  rwa [Char.ofNat_toNat] at settled

/-- The sizes as they are displayed. -/
def sizesText (digits places : Nat) : List Char :=
  (toString digits).toList ++ ',' :: (toString places).toList

theorem mem_sizesText {digits places : Nat} {c : Char} (h : c ∈ sizesText digits places) :
    Number.isDigit c = true ∨ c = ',' := by
  rcases List.mem_append.mp h with member | member
  · exact .inl ((Number.digits_repr digits).2.1 c member)
  · rcases List.mem_cons.mp member with comma | member
    · exact .inr comma
    · exact .inl ((Number.digits_repr places).2.1 c member)

theorem sizes_sizesText {digits places : Nat} (last : digits ≤ 38) (inside : places ≤ digits) :
    Sizes (sizesText digits places) digits places := by
  have read (n : Nat) (small : n ≤ 38) :
      Number.signed? 32 (Text.trim (toString n).toList) = some (n : Int) := by
    obtain ⟨nonempty, all, value⟩ := Number.digits_repr n
    have solid : ∀ c ∈ (toString n).toList, Text.isBlank c = false := fun c member =>
      Number.isBlank_of_isNumeral (.inl (all c member))
    have within : Number.InSignedRange 32 (Number.digitsValue (toString n).toList) := by
      rw [value]
      apply Number.inSignedRange_natCast.mpr
      exact small.trans_lt (by decide)
    have row := Number.signed?_digits nonempty all within
    rwa [value, ← (Text.hasSolidEnds_of_solid solid).trim_eq] at row
  exact .both (read digits last) (read places (inside.trans last))

theorem normalized_display_decimal (digits places : Nat) :
    normalized (decimal digits places).display =
      "decimal".toList ++ '(' :: (sizesText digits places ++ [')']) := by
  have shown : (decimal digits places).display =
      String.ofList ("decimal".toList ++ '(' :: (sizesText digits places ++ [')'])) := by
    apply String.toList_inj.mp
    have places_shown : toString (places : Int) = toString places := rfl
    simp [display, sizesText, places_shown]
  have name := @baseName_plain "decimal".toList List.mem_cons_self
  rw [shown]
  apply normalized_ofList
  · have ends : Text.HasSolidEnds ("decimal".toList ++ '(' :: sizesText digits places ++ [')']) :=
      Text.hasSolidEnds_append (by decide) (fun c member => (name c member).2.1) (by decide)
        (List.forall_mem_singleton.mpr (by decide))
    rwa [List.append_assoc, List.cons_append] at ends
  · refine List.forall_mem_append.mpr ⟨fun c member => (name c member).2.2, ?_⟩
    refine List.forall_mem_cons.mpr ⟨by decide, List.forall_mem_append.mpr
      ⟨?_, List.forall_mem_singleton.mpr (by decide)⟩⟩
    intro c member
    rcases mem_sizesText member with digit | rfl
    · exact isSettled_of_isDigit digit
    · decide

theorem ofDeclared_display_decimal {digits places : Nat} (first : 1 ≤ digits) (last : digits ≤ 38)
    (inside : places ≤ digits) (precision scale : Int) :
    ofDeclared (decimal digits places).display precision scale = decimal digits places := by
  have text := normalized_display_decimal digits places
  have name := @baseName_plain "decimal".toList List.mem_cons_self
  have begins : BeginsWith "decimal".toList (normalized (decimal digits places).display) := by
    rw [text]
    exact @BeginsWith.opened _ [] _ nofun
  have enclosed :
      HasArguments (sizesText digits places) (normalized (decimal digits places).display) := by
    rw [text]
    refine @HasArguments.enclosed _ _ 1 (fun c member => (name c member).1) fun closing => ?_
    rcases mem_sizesText (List.mem_of_getLast? closing) with digit | comma
    · exact absurd digit (by decide)
    · exact absurd comma (by decide)
  have own : Sized (normalized (decimal digits places).display) precision scale digits places :=
    .written enclosed (sizes_sizesText last inside)
  obtain ⟨_, _, sized, more, less, clamps, same⟩ := ofDeclared_of_decimal begins
  obtain ⟨rfl, rfl⟩ := sized.unique own
  obtain ⟨rfl, rfl⟩ := clamps.unique (clamps_self first last inside)
  exact same

/-- A displayed type is read as the type that it was displayed for. -/
theorem ofDeclared_display (declared : String) (precision scale more less : Int) :
    ofDeclared (ofDeclared declared precision scale).display more less =
      ofDeclared declared precision scale := by
  rcases ofDeclared_cases declared with ⟨entry, listed, begins⟩ | begins | unknown
  · have shown : ∀ entry ∈ simpleNames, (entry.2.display, entry.2) ∈ simpleNames ∧
        normalized entry.2.display = entry.2.display.toList := by decide
    obtain ⟨again, settled⟩ := shown entry listed
    rw [ofDeclared_of_simple listed begins]
    apply ofDeclared_of_simple again
    rw [settled]
    exact .alone
  · obtain ⟨_, _, _, digits, places, clamps, same⟩ :=
      @ofDeclared_of_decimal declared precision scale begins
    obtain ⟨first, last, positive, inside⟩ := clamps.bounds
    obtain ⟨places, rfl⟩ := Int.eq_ofNat_of_zero_le positive
    rw [same]
    exact ofDeclared_display_decimal first last (Int.ofNat_le.mp inside) more less
  · have text := normalized_normalized declared
    rw [ofDeclared_of_other unknown, display, ofDeclared_of_other, text]
    rwa [text]

/-- The text that goes with a field declares the type again, whatever sizes go with it. A decimal
has its sizes within the bounds: those written in its text, and otherwise those that go with the
text. -/
theorem declared_type_stable (declared : String) (precision scale : Int) :
    (∃ shown, (ofDeclared declared precision scale).metadata = [(declaredTypeKey, shown)] ∧
      ∀ more less, ofDeclared shown more less = ofDeclared declared precision scale) ∧
    ∀ digits places, ofDeclared declared precision scale = .decimal digits places →
      (1 ≤ digits ∧ digits ≤ 38 ∧ 0 ≤ places ∧ places ≤ digits) ∧
      (∀ arguments first second, HasArguments arguments (normalized declared) →
        Sizes arguments first second → Clamps first second digits places) ∧
      ((∀ arguments first second, HasArguments arguments (normalized declared) →
        ¬ Sizes arguments first second) → Clamps precision scale digits places) := by
  refine ⟨⟨_, rfl, ofDeclared_display declared precision scale⟩, ?_⟩
  intro digits places decimal
  obtain ⟨first, second, sized, _, _, clamps, same⟩ :=
    ofDeclared_of_decimal (beginsWith_of_decimal decimal)
  cases same.symm.trans decimal
  refine ⟨clamps.bounds, ?_, ?_⟩
  · intro arguments written also enclosed sizes
    obtain ⟨rfl, rfl⟩ := sized.unique (.written enclosed sizes)
    exact clamps
  · intro unsized
    obtain ⟨rfl, rfl⟩ := sized.unique (.given unsized)
    exact clamps

/-- The sizes in a text go before those that go with it; here they are out of bounds. -/
theorem declared_type_stable_clamped :
    ofDeclared " DECIMAL (60 ,-2)) " 5 3 = .decimal 38 0 ∧
      (∀ more less, ofDeclared "decimal(38,0)" more less = .decimal 38 0) ∧
      Clamps 60 (-2) 38 0 ∧ Clamps 5 3 5 3 := by
  have type : ofDeclared " DECIMAL (60 ,-2)) " 5 3 = .decimal 38 0 := by decide
  have bare : ofDeclared "decimal" 5 3 = .decimal 5 3 := by decide
  obtain ⟨⟨shown, stored, again⟩, sizes⟩ := declared_type_stable " DECIMAL (60 ,-2)) " 5 3
  rw [type] at stored again
  cases stored
  have enclosed : HasArguments "60 ,-2".toList (normalized " DECIMAL (60 ,-2)) ") :=
    splitArguments_snd_eq_some_iff.mp (by decide)
  have written : Sizes "60 ,-2".toList 60 (-2) :=
    @Sizes.both "60 ".toList "-2".toList _ _ (by decide) (by decide)
  have unsized (arguments : List Char) (first second : Int) :
      HasArguments arguments (normalized "decimal") → ¬ Sizes arguments first second := by
    intro enclosed
    have split : (splitArguments (normalized "decimal")).2 = none := by decide
    rw [splitArguments_snd_eq_some_iff.mpr enclosed] at split
    cases split
  exact ⟨type, again, (sizes 38 0 type).2.1 _ 60 (-2) enclosed written,
    ((declared_type_stable "decimal" 5 3).2 5 3 bare).2.2 unsized⟩

end RemoteQuery.SqlType
