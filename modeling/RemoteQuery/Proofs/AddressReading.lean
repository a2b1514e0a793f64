import Mathlib.Data.List.Forall2
import RemoteQuery.Proofs.AddressLayout

/-!
# Reading by the layout

Reading goes by the layout of a string. What can be read of it before any pair is applied is the
place, which must name a region, and the pairs, of which each must have its equals sign and be
soundly encoded.
-/
namespace RemoteQuery.Address

/-- The pieces that stand for a pair: an equals sign, the first one, parts name and value. -/
inductive Encodes (pair : String × String) : List Char → Prop
  | intro {name value : List Char} (first : ∀ c ∈ name, c ≠ '=')
      (inName : Text.Percent.decode name = .ok pair.1)
      (inValue : Text.Percent.decode value = .ok pair.2) : Encodes pair (name ++ '=' :: value)

/-- The settings that the place gives. -/
inductive Places (layout : Layout) : ConnectionSettings → Prop
  | regional {region : String} (inRegion : Text.Percent.decode layout.region = .ok region)
      (unnamed : layout.catalog = none) : Places layout { region := some region }
  | cataloged {region catalog : String} {written : List Char}
      (inRegion : Text.Percent.decode layout.region = .ok region)
      (named : layout.catalog = some written)
      (inCatalog : Text.Percent.decode written = .ok catalog) :
      Places layout { region := some region, catalog := some catalog }

/-- The pairs that the pieces give, empty ones apart; a name has its last value. -/
inductive Collects (pieces : List (List Char)) : List (String × String) → Prop
  | intro {given : List (String × String)}
      (all : List.Forall₂ (fun piece pair => Encodes pair piece)
        (pieces.filter fun piece => !piece.isEmpty) given) :
      Collects pieces (given.foldl (fun pairs pair => setPair pair pairs) [])

/-- What can be read of a string before its pairs are applied: it names a region, and all of it is
soundly encoded. -/
structure Opens (text : String) (layout : Layout) (settings : ConnectionSettings)
    (pairs : List (String × String)) : Prop where
  laid : LaidOut layout (Text.trim text.toList)
  named : layout.region ≠ []
  place : Places layout settings
  pairs : Collects layout.pieces pairs

theorem decodePart_eq_ok_iff {what text : String} {chars : List Char} :
    decodePart what chars = .ok text ↔ Text.Percent.decode chars = .ok text := by
  rw [decodePart]
  split
  · rename_i decoded found
    rw [found, Except.ok.injEq, Except.ok.injEq]
  · rename_i fault found
    rw [found]
    exact ⟨nofun, nofun⟩

theorem decodePart_malformed {what : String} {chars : List Char} {fault : Fault}
    (h : decodePart what chars = .error fault) : ∃ cause, fault = .refused (.malformed cause) := by
  rw [decodePart] at h
  split at h
  · cases h
  · cases h
    exact ⟨_, rfl⟩

theorem decodePair_eq_ok_iff {piece : List Char} {pair : String × String} :
    decodePair piece = .ok pair ↔ Encodes pair piece := by
  rw [decodePair]
  constructor
  · intro read
    split at read
    · cases read
    · rename_i name value cut
      simp only [bind_eq_ok_iff, decodePart_eq_ok_iff] at read
      obtain ⟨_, inName, _, inValue, made⟩ := read
      cases made
      obtain ⟨plain, mark, isMark, rfl⟩ := Text.cut?_eq_some_iff.mp cut
      rw [beq_iff_eq.mp isMark]
      exact .intro (fun c member => beq_eq_false_iff_ne.mp (plain c member)) inName inValue
  · rintro ⟨first, inName, inValue⟩
    rw [Text.cut?_append first]
    refine bind_eq_ok_iff.mpr ⟨_, decodePart_eq_ok_iff.mpr inName, ?_⟩
    exact bind_eq_ok_iff.mpr ⟨_, decodePart_eq_ok_iff.mpr inValue, rfl⟩

theorem decodePair_malformed {piece : List Char} {fault : Fault}
    (h : decodePair piece = .error fault) : ∃ cause, fault = .refused (.malformed cause) := by
  rw [decodePair] at h
  split at h
  · cases h
    exact ⟨_, rfl⟩
  · simp only [bind_eq_error_iff] at h
    rcases h with failed | ⟨_, _, failed | ⟨_, _, failed⟩⟩
    · exact decodePart_malformed failed
    · exact decodePart_malformed failed
    · cases failed

theorem decodePairs_of_encodes {pieces : List (List Char)} {given : List (String × String)}
    (all : List.Forall₂ (fun piece pair => Encodes pair piece)
      (pieces.filter fun piece => !piece.isEmpty) given) (before : List (String × String)) :
    decodePairs before pieces =
      .ok (given.foldl (fun pairs pair => setPair pair pairs) before) := by
  induction pieces generalizing given before with
  | nil =>
    cases all
    rfl
  | cons piece pieces ih =>
    rw [decodePairs]
    cases empty : piece.isEmpty with
    | true =>
      rw [List.filter_cons_of_neg (by rw [empty]; decide)] at all
      exact ih all before
    | false =>
      rw [List.filter_cons_of_pos (by rw [empty]; rfl)] at all
      obtain ⟨pair, given, here, later, rfl⟩ := List.forall₂_cons_left_iff.mp all
      exact bind_eq_ok_iff.mpr ⟨pair, decodePair_eq_ok_iff.mpr here, ih later _⟩

theorem encodes_or_malformed (pieces : List (List Char)) (before : List (String × String)) :
    (∃ given, List.Forall₂ (fun piece pair => Encodes pair piece)
      (pieces.filter fun piece => !piece.isEmpty) given) ∨
    ∃ cause, decodePairs before pieces = .error (.refused (.malformed cause)) := by
  induction pieces generalizing before with
  | nil => exact .inl ⟨[], .nil⟩
  | cons piece pieces ih =>
    rw [decodePairs]
    cases empty : piece.isEmpty with
    | true =>
      rw [List.filter_cons_of_neg (by rw [empty]; decide)]
      exact ih before
    | false =>
      rw [List.filter_cons_of_pos (by rw [empty]; rfl)]
      cases read : decodePair piece with
      | error fault =>
        obtain ⟨cause, rfl⟩ := decodePair_malformed read
        exact .inr ⟨cause, rfl⟩
      | ok pair =>
        rcases ih (setPair pair before) with ⟨given, all⟩ | ⟨cause, failed⟩
        · exact .inl ⟨pair :: given, .cons (decodePair_eq_ok_iff.mp read) all⟩
        · exact .inr ⟨cause, failed⟩

section Place

variable {layout : Layout} {place : List Char}
  (split : splitPlace place = (layout.region, layout.catalog))
include split

theorem readPlace_of_places {settings : ConnectionSettings} (named : layout.region ≠ [])
    (h : Places layout settings) : readPlace place = .ok settings := by
  rw [readPlace, split]
  simp only [List.isEmpty_eq_false_iff.mpr named, Bool.false_eq_true, if_false]
  cases h with
  | regional inRegion unnamed =>
    refine bind_eq_ok_iff.mpr ⟨_, decodePart_eq_ok_iff.mpr inRegion, ?_⟩
    rw [unnamed]
    rfl
  | cataloged inRegion named inCatalog =>
    refine bind_eq_ok_iff.mpr ⟨_, decodePart_eq_ok_iff.mpr inRegion, ?_⟩
    rw [named]
    exact bind_eq_ok_iff.mpr ⟨_, decodePart_eq_ok_iff.mpr inCatalog, rfl⟩

theorem places_or_malformed :
    (layout.region ≠ [] ∧ ∃ settings, Places layout settings) ∨
      ∃ cause, readPlace place = .error (.refused (.malformed cause)) := by
  rw [readPlace, split]
  simp only
  split
  · exact .inr ⟨_, rfl⟩
  · rename_i nonempty
    have named : layout.region ≠ [] := fun empty => nonempty (List.isEmpty_iff.mpr empty)
    cases inRegion : decodePart "region" layout.region with
    | error fault =>
      obtain ⟨cause, rfl⟩ := decodePart_malformed inRegion
      exact .inr ⟨cause, rfl⟩
    | ok region =>
      have region := decodePart_eq_ok_iff.mp inRegion
      cases catalog : layout.catalog with
      | none => exact .inl ⟨named, _, .regional region catalog⟩
      | some written =>
        cases inCatalog : decodePart "catalog" written with
        | error fault =>
          obtain ⟨cause, rfl⟩ := decodePart_malformed inCatalog
          refine .inr ⟨cause, ?_⟩
          change (decodePart "catalog" written >>= _) = _
          rw [inCatalog]
          rfl
        | ok text =>
          exact .inl ⟨named, _, .cataloged region catalog (decodePart_eq_ok_iff.mp inCatalog)⟩

end Place

theorem Opens.readParts_eq {text : String} {layout : Layout} {settings : ConnectionSettings}
    {pairs : List (String × String)} (h : Opens text layout settings pairs) :
    readParts text = .ok (settings, pairs) := by
  obtain ⟨rest, place, schemed, parted, split⟩ := laidOut_iff.mp h.laid
  obtain ⟨all⟩ := h.pairs
  rw [readParts, schemed]
  simp only [parted]
  rw [decodePairs_of_encodes all]
  change (readPlace place >>= _) = _
  rw [readPlace_of_places split h.named h.place]
  rfl

theorem opens_or_malformed (text : String) :
    (∃ layout settings pairs, Opens text layout settings pairs) ∨
      ∃ cause, readParts text = .error (.refused (.malformed cause)) := by
  rw [readParts]
  cases schemed : afterScheme? (Text.trim text.toList) with
  | none => exact .inr ⟨_, rfl⟩
  | some rest =>
    rcases parted : splitPairs rest with ⟨place, pieces⟩
    rcases split : splitPlace place with ⟨region, catalog⟩
    let layout : Layout := ⟨region, catalog, pieces⟩
    have laid : LaidOut layout (Text.trim text.toList) :=
      laidOut_iff.mpr ⟨rest, place, schemed, parted, split⟩
    simp only [parted]
    rcases encodes_or_malformed pieces [] with ⟨given, all⟩ | ⟨cause, failed⟩
    · rw [decodePairs_of_encodes all]
      change _ ∨ ∃ cause, (readPlace place >>= _) = _
      have place : splitPlace place = (layout.region, layout.catalog) := split
      rcases places_or_malformed place with ⟨named, settings, placed⟩ | ⟨cause, failed⟩
      · exact .inl ⟨layout, settings, _, laid, named, placed, .intro all⟩
      · rw [failed]
        exact .inr ⟨cause, rfl⟩
    · rw [failed]
      exact .inr ⟨cause, rfl⟩

theorem readParts_eq_ok_iff {text : String} {settings : ConnectionSettings}
    {pairs : List (String × String)} :
    readParts text = .ok (settings, pairs) ↔ ∃ layout, Opens text layout settings pairs := by
  refine ⟨fun read => ?_, fun ⟨_, opened⟩ => opened.readParts_eq⟩
  rcases opens_or_malformed text with ⟨layout, _, _, opened⟩ | ⟨cause, malformed⟩
  · rw [opened.readParts_eq] at read
    cases read
    exact ⟨layout, opened⟩
  · rw [read] at malformed
    cases malformed

section Arranged

variable (arrangement : Arrangement) {text : String}

/-- The pairs are applied one after the other, and what they come to is checked. -/
theorem Opens.read_eq {layout : Layout} {settings : ConnectionSettings}
    {pairs : List (String × String)} (h : Opens text layout settings pairs) :
    read arrangement text =
      (applyPairs settings (arrangement.order pairs)).bind fun settings =>
        settings.build.mapError .refused := by
  rw [read, h.readParts_eq]
  change (applyPairs settings _ >>= _) = _
  refine congrArg _ (funext fun settings => ?_)
  cases settings.build <;> rfl

theorem read_of_malformed {cause : String}
    (malformed : readParts text = .error (.refused (.malformed cause))) :
    read arrangement text = .error (.refused (.malformed cause)) := by
  rw [read, malformed]
  rfl

end Arranged

end RemoteQuery.Address
