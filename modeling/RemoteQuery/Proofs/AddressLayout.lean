import RemoteQuery.Connection.Address

/-!
# The layout of connection strings

A string that begins with the scheme, blanks aside, has one layout: a region, a catalog if one is
named, and the pieces of the pairs. The string is cut at its separators, and where it is cut is told
by the layout alone.
-/
namespace RemoteQuery.Address

/-- What a string is made of: region and catalog as they are written, and what stands between the
ampersands. -/
structure Layout where
  region : List Char
  catalog : Option (List Char)
  pieces : List (List Char)

/-- What stands behind the region. Slashes at the end do not belong to the catalog. -/
inductive NamesCatalog : Option (List Char) → List Char → Prop
  | absent : NamesCatalog none []
  | unnamed (slashes : Nat) : NamesCatalog none ('/' :: List.replicate slashes '/')
  | named {catalog : List Char} (nonempty : catalog ≠ []) (last : catalog.getLast? ≠ some '/')
      (slashes : Nat) :
      NamesCatalog (some catalog) ('/' :: (catalog ++ List.replicate slashes '/'))

/-- What stands behind the place. -/
inductive HoldsPieces : List (List Char) → List Char → Prop
  | absent : HoldsPieces [] []
  | joined {pieces : List (List Char)} (nonempty : pieces ≠ [])
      (apart : ∀ piece ∈ pieces, '&' ∉ piece) :
      HoldsPieces pieces ('?' :: List.intercalate ['&'] pieces)

/-- The texts with a layout. -/
inductive LaidOut (layout : Layout) : List Char → Prop
  | intro {behind query : List Char} (region : ∀ c ∈ layout.region, c ≠ '/')
      (place : ∀ c ∈ layout.region ++ behind, c ≠ '?')
      (catalog : NamesCatalog layout.catalog behind) (pieces : HoldsPieces layout.pieces query) :
      LaidOut layout (scheme.toList ++ (layout.region ++ behind ++ query))

theorem not_mem_of_mem_splitOn {separator : Char} {text piece : List Char}
    (h : piece ∈ text.splitOn separator) : separator ∉ piece := by
  induction text generalizing piece with
  | nil =>
    rw [List.splitOn_nil, List.mem_singleton] at h
    rw [h]
    exact List.not_mem_nil
  | cons c text ih =>
    rw [List.splitOn_cons_eq_if_modifyHead] at h
    split at h
    · rcases List.mem_cons.mp h with rfl | later
      · exact List.not_mem_nil
      · exact ih later
    · rename_i other
      -- The character joins the piece that stands behind it.
      obtain ⟨first, rest, split⟩ := List.exists_cons_of_ne_nil (List.splitOn_ne_nil separator text)
      rw [split] at h ih
      rcases List.mem_cons.mp h with rfl | later
      · rw [List.mem_cons, not_or]
        exact ⟨fun same => other (beq_iff_eq.mpr same.symm), ih List.mem_cons_self⟩
      · exact ih (List.mem_cons_of_mem _ later)

theorem splitPairs_eq_iff {text place : List Char} {pieces : List (List Char)} :
    splitPairs text = (place, pieces) ↔
      (∀ c ∈ place, c ≠ '?') ∧ ∃ query, HoldsPieces pieces query ∧ text = place ++ query := by
  rw [splitPairs]
  constructor
  · intro split
    cases cut : Text.cut? (· == '?') text with
    | none =>
      rw [cut] at split
      cases split
      refine ⟨fun c member => ?_, [], .absent, (List.append_nil _).symm⟩
      exact beq_eq_false_iff_ne.mp (Text.cut?_eq_none_iff.mp cut c member)
    | some parts =>
      obtain ⟨before, after⟩ := parts
      rw [cut] at split
      cases split
      obtain ⟨plain, mark, isMark, rfl⟩ := Text.cut?_eq_some_iff.mp cut
      rw [beq_iff_eq.mp isMark]
      refine ⟨fun c member => beq_eq_false_iff_ne.mp (plain c member), _, ?_, rfl⟩
      have joined : HoldsPieces (after.splitOn '&') _ :=
        .joined (List.splitOn_ne_nil '&' after) fun piece => not_mem_of_mem_splitOn
      rwa [List.intercalate_splitOn] at joined
  · rintro ⟨plain, query, held, rfl⟩
    cases held with
    | absent => rw [List.append_nil, Text.cut?_eq_none plain]
    | joined nonempty apart =>
      rw [Text.cut?_append plain]
      simp only [← List.splitOn_eq_splitOnP, List.splitOn_intercalate '&' apart nonempty]

/-- Slashes at the end are those that stripping takes away. -/
theorem exists_stripped (text : List Char) :
    ∃ slashes,
      text = (text.reverse.dropWhile (· == '/')).reverse ++ List.replicate slashes '/' := by
  have kept := List.takeWhile_append_dropWhile (p := (· == '/')) (l := text.reverse)
  have all : ∀ c ∈ text.reverse.takeWhile (· == '/'), c = '/' := fun c member =>
    beq_iff_eq.mp (List.all_eq_true.mp List.all_takeWhile c member)
  rw [List.eq_replicate_of_mem all] at kept
  refine ⟨(text.reverse.takeWhile (· == '/')).length, ?_⟩
  rw [← List.reverse_replicate, ← List.reverse_append, kept, List.reverse_reverse]

theorem getLast?_stripped (text : List Char) :
    (text.reverse.dropWhile (· == '/')).reverse.getLast? ≠ some '/' := by
  have first := List.head?_dropWhile_not (· == '/') text.reverse
  rw [List.getLast?_reverse]
  intro slash
  rw [slash] at first
  cases first

theorem stripped_append {text : List Char} (last : text.getLast? ≠ some '/') (slashes : Nat) :
    ((text ++ List.replicate slashes '/').reverse.dropWhile (· == '/')).reverse = text := by
  have slash : ∀ c ∈ List.replicate slashes '/', (c == '/') = true := fun c member =>
    beq_iff_eq.mpr (List.eq_of_mem_replicate member)
  rw [List.reverse_append, List.reverse_replicate, List.dropWhile_append_of_pos slash,
    List.reverse_eq_iff]
  cases reversed : text.reverse with
  | nil => rfl
  | cons c rest =>
    rw [← List.head?_reverse, reversed, List.head?_cons] at last
    exact List.dropWhile_cons_of_neg fun same => last (congrArg some (beq_iff_eq.mp same))

theorem splitPlace_eq_iff {place region : List Char} {catalog : Option (List Char)} :
    splitPlace place = (region, catalog) ↔
      (∀ c ∈ region, c ≠ '/') ∧
        ∃ behind, NamesCatalog catalog behind ∧ place = region ++ behind := by
  rw [splitPlace]
  constructor
  · intro split
    cases cut : Text.cut? (· == '/') place with
    | none =>
      rw [cut] at split
      cases split
      refine ⟨fun c member => ?_, [], .absent, (List.append_nil _).symm⟩
      exact beq_eq_false_iff_ne.mp (Text.cut?_eq_none_iff.mp cut c member)
    | some parts =>
      obtain ⟨before, after⟩ := parts
      rw [cut] at split
      obtain ⟨rfl, named⟩ := Prod.mk.inj split
      obtain ⟨plain, mark, isMark, rfl⟩ := Text.cut?_eq_some_iff.mp cut
      rw [beq_iff_eq.mp isMark]
      refine ⟨fun c member => beq_eq_false_iff_ne.mp (plain c member), _, ?_, rfl⟩
      obtain ⟨slashes, whole⟩ := exists_stripped after
      have last := getLast?_stripped after
      generalize (after.reverse.dropWhile (· == '/')).reverse = stripped at named whole last
      rw [whole]
      split at named
      · rename_i empty
        rw [List.isEmpty_iff.mp empty, ← named]
        exact .unnamed slashes
      · rename_i nonempty
        rw [← named]
        exact .named (fun empty => nonempty (List.isEmpty_iff.mpr empty)) last slashes
  · rintro ⟨plain, behind, named, rfl⟩
    cases named with
    | absent => rw [List.append_nil, Text.cut?_eq_none plain]
    | unnamed slashes =>
      have empty : ([] : List Char).getLast? ≠ some '/' := nofun
      have stripped := stripped_append empty slashes
      rw [List.nil_append] at stripped
      rw [Text.cut?_append plain]
      simp only [stripped, List.isEmpty_nil, if_true]
    | @named catalog nonempty last slashes =>
      rw [Text.cut?_append plain]
      simp only [stripped_append last, List.isEmpty_eq_false_iff.mpr nonempty, Bool.false_eq_true,
        if_false]

theorem afterScheme?_eq_some_iff {text rest : List Char} :
    afterScheme? text = some rest ↔ text = scheme.toList ++ rest := by
  have length : scheme.length = scheme.toList.length := by decide
  rw [afterScheme?]
  constructor
  · intro found
    split at found
    · rename_i leads
      obtain ⟨tail, rfl⟩ := List.isPrefixOf_iff_prefix.mp leads
      rw [length, List.drop_left] at found
      rw [Option.some.inj found]
    · cases found
  · rintro rfl
    rw [if_pos (List.isPrefixOf_iff_prefix.mpr (List.prefix_append _ _)), length, List.drop_left]

theorem laidOut_iff {layout : Layout} {text : List Char} :
    LaidOut layout text ↔ ∃ rest place, afterScheme? text = some rest ∧
      splitPairs rest = (place, layout.pieces) ∧
      splitPlace place = (layout.region, layout.catalog) := by
  constructor
  · rintro ⟨region, place, catalog, pieces⟩
    exact ⟨_, _, afterScheme?_eq_some_iff.mpr rfl, splitPairs_eq_iff.mpr ⟨place, _, pieces, rfl⟩,
      splitPlace_eq_iff.mpr ⟨region, _, catalog, rfl⟩⟩
  · rintro ⟨rest, place, schemed, pairs, parts⟩
    obtain ⟨plain, query, pieces, rfl⟩ := splitPairs_eq_iff.mp pairs
    obtain ⟨region, behind, catalog, rfl⟩ := splitPlace_eq_iff.mp parts
    rw [afterScheme?_eq_some_iff.mp schemed]
    exact .intro region plain catalog pieces

end RemoteQuery.Address
