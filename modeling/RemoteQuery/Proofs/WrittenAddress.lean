import Mathlib.Data.List.Forall2
import RemoteQuery.Proofs.AddressReading
import RemoteQuery.Proofs.PairSettings
import RemoteQuery.Proofs.PercentDecoding
import RemoteQuery.Proofs.ValidParams

/-!
# Parameters written as a connection string

Parameters may be written as a connection string in many ways: in any order of the pairs, under
either name of each parameter, in any spelling, with empty pairs between, slashes behind the catalog
and blanks around. Whichever is taken, the string falls into its parts where it was put together,
since no spelling holds a separator or a blank.
-/
namespace RemoteQuery.Address

/-- The text of a parameter's value; what is absent has none. -/
def valueText? (params : ConnectionParams) : Parameter → Option String
  | .role => some params.roleArn
  | .workgroup => params.workgroup
  | .schema => params.schema
  | .output => params.outputLocation
  | .timeout => some (toString params.timeout.wholeSeconds)
  | .pollInterval => some (toString params.pollInterval.wholeSeconds)
  | .sessionName => some params.sessionName

/-- The name and the value of a pair that gives a parameter. -/
structure Gives (params : ConnectionParams) (parameter : Parameter) (pair : String × String) :
    Prop where
  name : (pair.1, parameter) ∈ parameterNames
  value : valueText? params parameter = some pair.2

/-- A piece between ampersands that gives a parameter. -/
def GivenBy (params : ConnectionParams) (parameter : Parameter) (piece : List Char) : Prop :=
  ∃ pair value, Gives params parameter pair ∧ Text.Percent.Writes pair.2 value ∧
    piece = pair.1.toList ++ '=' :: value

/-- The pieces give each parameter that has a value once, in any order; others are empty. -/
structure GivesAll (params : ConnectionParams) (given : List Parameter)
    (pieces : List (List Char)) : Prop where
  once : given.Nodup
  present : ∀ parameter, parameter ∈ given ↔ (valueText? params parameter).isSome = true
  pairs : List.Forall₂ (GivenBy params) given (pieces.filter fun piece => !piece.isEmpty)

def writtenPlace (region catalog : List Char) (slashes : Nat) : List Char :=
  region ++ '/' :: (catalog ++ List.replicate slashes '/')

/-- What is written behind the scheme. -/
def writtenRest (region catalog : List Char) (slashes : Nat) (pieces : List (List Char)) :
    List Char :=
  writtenPlace region catalog slashes ++ '?' :: List.intercalate ['&'] pieces

/-- The ways to write parameters as a connection string. -/
inductive Written (params : ConnectionParams) : String → Prop
  | intro {before after region catalog : List Char} {slashes : Nat} {given : List Parameter}
      {pieces : List (List Char)} (start : ∀ c ∈ before, Text.isBlank c = true)
      (finish : ∀ c ∈ after, Text.isBlank c = true)
      (inRegion : Text.Percent.Writes params.region region)
      (inCatalog : Text.Percent.Writes params.catalog catalog)
      (pairs : GivesAll params given pieces) :
      Written params (String.ofList (before ++
        (scheme.toList ++ writtenRest region catalog slashes pieces) ++ after))

/-- The names of parameters are written as they are. -/
theorem writes_name {name : String} {parameter : Parameter}
    (known : (name, parameter) ∈ parameterNames) : Text.Percent.Writes name name.toList := by
  have table : parameterNames.all (fun entry => entry.1.toList.all fun c =>
      Text.Percent.isUnreserved (UInt8.ofNat c.toNat) && decide (c.toNat < 128)) = true := by decide
  have plain := List.all_eq_true.mp table _ known
  refine Text.Percent.writes_unreserved ?_
  intro c member
  have safe := List.all_eq_true.mp plain c member
  rwa [Bool.and_eq_true, decide_eq_true_eq] at safe

theorem name_injective {name : String} {one other : Parameter}
    (first : (name, one) ∈ parameterNames) (second : (name, other) ∈ parameterNames) :
    one = other :=
  Option.some.inj ((lookup_of_known first).symm.trans (lookup_of_known second))

theorem decodePart_of_writes {text : String} {chars : List Char}
    (h : Text.Percent.Writes text chars) (what : String) : decodePart what chars = .ok text :=
  decodePart_eq_ok_iff.mpr (Text.Percent.lawful.decode_of_writes h)

/-- Separators do not belong to spellings. -/
theorem not_separator {text : String} {chars : List Char} (h : Text.Percent.Writes text chars)
    {separator : Char} (listed : separator ∈ ['?', '/', '&', '=']) :
    ∀ c ∈ chars, (c == separator) = false := by
  intro c member
  refine beq_eq_false_iff_ne.mpr ?_
  rintro rfl
  exact (Text.Percent.isSpelling_plain (h.isSpelling c member)).2 listed

theorem GivenBy.decodePair {params : ConnectionParams} {parameter : Parameter} {piece : List Char}
    (h : GivenBy params parameter piece) :
    ∃ pair, Gives params parameter pair ∧ decodePair piece = .ok pair := by
  obtain ⟨pair, value, gives, written, rfl⟩ := h
  have name := writes_name gives.name
  have cut : Text.cut? (· == '=') (pair.1.toList ++ '=' :: value) = some (pair.1.toList, value) :=
    Text.cut?_eq_some_iff.mpr ⟨not_separator name (by decide), '=', rfl, rfl⟩
  refine ⟨pair, gives, ?_⟩
  rw [Address.decodePair, cut]
  refine bind_eq_ok_iff.mpr ⟨_, decodePart_of_writes name "key", ?_⟩
  exact bind_eq_ok_iff.mpr ⟨_, decodePart_of_writes written "value", rfl⟩

theorem setPair_of_absent {pair : String × String} {pairs : List (String × String)}
    (absent : ∀ earlier ∈ pairs, earlier.1 ≠ pair.1) : setPair pair pairs = pairs ++ [pair] := by
  induction pairs with
  | nil => rfl
  | cons earlier pairs ih =>
    obtain ⟨name, value⟩ := earlier
    obtain ⟨other, rest⟩ := List.forall_mem_cons.mp absent
    rw [setPair, if_neg other, ih rest, List.cons_append]

theorem decodePairs_of_given {params : ConnectionParams} {given : List Parameter}
    {pieces : List (List Char)} {pairs : List (String × String)} (once : given.Nodup)
    (all : List.Forall₂ (GivenBy params) given (pieces.filter fun piece => !piece.isEmpty))
    (absent : ∀ parameter ∈ given, ∀ earlier ∈ pairs, (earlier.1, parameter) ∉ parameterNames) :
    ∃ decoded, List.Forall₂ (Gives params) given decoded ∧
      decodePairs pairs pieces = .ok (pairs ++ decoded) := by
  induction pieces generalizing given pairs with
  | nil =>
    cases all
    exact ⟨[], .nil, by rw [decodePairs, List.append_nil]⟩
  | cons piece pieces ih =>
    rw [decodePairs]
    cases empty : piece.isEmpty with
    | true =>
      rw [List.filter_cons_of_neg (by rw [empty]; decide)] at all
      exact ih once all absent
    | false =>
      rw [List.filter_cons_of_pos (by rw [empty]; rfl)] at all
      cases all with
      | @cons parameter _ given _ here all =>
        obtain ⟨pair, gives, read⟩ := here.decodePair
        obtain ⟨another, once⟩ := List.nodup_cons.mp once
        have fresh : ∀ earlier ∈ pairs, earlier.1 ≠ pair.1 := by
          intro earlier member same
          exact absent parameter List.mem_cons_self earlier member (same ▸ gives.name)
        obtain ⟨decoded, rest, result⟩ := @ih given (pairs ++ [pair]) once all (by
          intro later member earlier listed known
          rcases List.mem_append.mp listed with before | last
          · exact absent later (List.mem_cons_of_mem _ member) earlier before known
          · rw [List.mem_singleton.mp last] at known
            exact another (name_injective gives.name known ▸ member))
        refine ⟨pair :: decoded, .cons gives rest, ?_⟩
        refine bind_eq_ok_iff.mpr ⟨pair, read, ?_⟩
        rw [setPair_of_absent fresh, result, List.append_assoc, List.singleton_append]

theorem isBlank_of_writes {text : String} {chars : List Char} (h : Text.Percent.Writes text chars) :
    ∀ c ∈ chars, Text.isBlank c = false := fun c member =>
  (Text.Percent.isSpelling_plain (h.isSpelling c member)).1

theorem GivenBy.solid {params : ConnectionParams} {parameter : Parameter} {piece : List Char}
    (h : GivenBy params parameter piece) : ∀ c ∈ piece, Text.isBlank c = false ∧ c ≠ '&' := by
  obtain ⟨pair, value, gives, written, rfl⟩ := h
  have spelled {text : String} {chars : List Char} (h : Text.Percent.Writes text chars) :
      ∀ c ∈ chars, Text.isBlank c = false ∧ c ≠ '&' := fun c member =>
    ⟨isBlank_of_writes h c member, beq_eq_false_iff_ne.mp (not_separator h (by decide) c member)⟩
  refine List.forall_mem_append.mpr ⟨spelled (writes_name gives.name), ?_⟩
  exact List.forall_mem_cons.mpr ⟨by decide, spelled written⟩

theorem GivesAll.solid {params : ConnectionParams} {given : List Parameter}
    {pieces : List (List Char)} (h : GivesAll params given pieces) :
    ∀ piece ∈ pieces, ∀ c ∈ piece, Text.isBlank c = false ∧ c ≠ '&' := by
  intro piece member
  cases piece with
  | nil => nofun
  | cons first rest =>
    have kept : first :: rest ∈ pieces.filter fun piece => !piece.isEmpty :=
      List.mem_filter.mpr ⟨member, rfl⟩
    obtain ⟨index, within, here⟩ := List.getElem_of_mem kept
    have given := h.pairs.get (h.pairs.length_eq ▸ within) within
    simp only [List.get_eq_getElem, here] at given
    exact given.solid

theorem GivesAll.ne_nil {params : ConnectionParams} {given : List Parameter}
    {pieces : List (List Char)} (h : GivesAll params given pieces) : pieces ≠ [] := by
  rintro rfl
  have none : given = [] := List.forall₂_nil_right_iff.mp h.pairs
  have role := (h.present .role).mpr rfl
  rw [none] at role
  cases role

theorem isBlank_intercalate {pieces : List (List Char)}
    (solid : ∀ piece ∈ pieces, ∀ c ∈ piece, Text.isBlank c = false) :
    ∀ c ∈ List.intercalate ['&'] pieces, Text.isBlank c = false := by
  induction pieces with
  | nil => nofun
  | cons piece pieces ih =>
    obtain ⟨here, rest⟩ := List.forall_mem_cons.mp solid
    cases pieces with
    | nil => rwa [List.intercalate_singleton]
    | cons next pieces =>
      rw [List.intercalate_cons_cons]
      refine List.forall_mem_append.mpr ⟨List.forall_mem_append.mpr ⟨here, ?_⟩, ih rest⟩
      exact List.forall_mem_singleton.mpr (by decide)

theorem splitPlace_written {region catalog : List Char} (slashes : Nat)
    (noSlash : ∀ c ∈ region, (c == '/') = false) (last : ∀ c ∈ catalog, (c == '/') = false)
    (nonempty : catalog ≠ []) :
    splitPlace (writtenPlace region catalog slashes) = (region, some catalog) := by
  have plain : ∀ c ∈ region, c ≠ '/' := fun c member => beq_eq_false_iff_ne.mp (noSlash c member)
  have ending : catalog.getLast? ≠ some '/' := fun slash =>
    Bool.noConfusion (last '/' (List.mem_of_getLast? slash))
  exact splitPlace_eq_iff.mpr ⟨plain, _, .named nonempty ending slashes, rfl⟩

theorem readPlace_written {params : ConnectionParams} (valid : params.Valid)
    {region catalog : List Char} (slashes : Nat)
    (inRegion : Text.Percent.Writes params.region region)
    (inCatalog : Text.Percent.Writes params.catalog catalog) :
    readPlace (writtenPlace region catalog slashes) =
      .ok { region := some params.region, catalog := some params.catalog } := by
  have named : params.region ≠ "" := by
    intro empty
    have blank := valid.region
    rw [empty] at blank
    cases blank
  have shown : region.isEmpty = false := List.isEmpty_eq_false_iff.mpr (inRegion.ne_nil named)
  rw [readPlace, splitPlace_written slashes (not_separator inRegion (by decide))
    (not_separator inCatalog (by decide)) (inCatalog.ne_nil valid.catalog)]
  simp only [shown, Bool.false_eq_true, if_false]
  refine bind_eq_ok_iff.mpr ⟨_, decodePart_of_writes inRegion "region", ?_⟩
  exact bind_eq_ok_iff.mpr ⟨_, decodePart_of_writes inCatalog "catalog", rfl⟩

theorem splitPairs_written {region catalog : List Char} {pieces : List (List Char)} (slashes : Nat)
    (inRegion : ∀ c ∈ region, (c == '?') = false) (inCatalog : ∀ c ∈ catalog, (c == '?') = false)
    (joined : ∀ piece ∈ pieces, '&' ∉ piece) (nonempty : pieces ≠ []) :
    splitPairs (writtenRest region catalog slashes pieces) =
      (writtenPlace region catalog slashes, pieces) := by
  have place : ∀ c ∈ writtenPlace region catalog slashes, (c == '?') = false := by
    refine List.forall_mem_append.mpr ⟨inRegion, List.forall_mem_cons.mpr ⟨by decide, ?_⟩⟩
    refine List.forall_mem_append.mpr ⟨inCatalog, ?_⟩
    intro c member
    rw [List.eq_of_mem_replicate member]
    decide
  have plain : ∀ c ∈ writtenPlace region catalog slashes, c ≠ '?' := fun c member =>
    beq_eq_false_iff_ne.mp (place c member)
  exact splitPairs_eq_iff.mpr ⟨plain, _, .joined nonempty joined, rfl⟩

/-- No blank stands inside a written string. -/
theorem isBlank_written {params : ConnectionParams} {region catalog : List Char} {slashes : Nat}
    {given : List Parameter} {pieces : List (List Char)}
    (inRegion : Text.Percent.Writes params.region region)
    (inCatalog : Text.Percent.Writes params.catalog catalog)
    (pairs : GivesAll params given pieces) :
    ∀ c ∈ scheme.toList ++ writtenRest region catalog slashes pieces, Text.isBlank c = false := by
  have solid : scheme.toList.all (fun c => !Text.isBlank c) = true := by decide
  have scheme (c : Char) (member : c ∈ scheme.toList) : Text.isBlank c = false :=
    (Bool.not_eq_true' _).mp (List.all_eq_true.mp solid c member)
  refine List.forall_mem_append.mpr ⟨scheme, List.forall_mem_append.mpr ⟨?_, ?_⟩⟩
  · refine List.forall_mem_append.mpr ⟨isBlank_of_writes inRegion, ?_⟩
    refine List.forall_mem_cons.mpr ⟨by decide, List.forall_mem_append.mpr ?_⟩
    refine ⟨isBlank_of_writes inCatalog, ?_⟩
    intro c member
    rw [List.eq_of_mem_replicate member]
    decide
  · refine List.forall_mem_cons.mpr ⟨by decide, isBlank_intercalate ?_⟩
    exact fun piece member c here => (pairs.solid piece member c here).1

end RemoteQuery.Address
