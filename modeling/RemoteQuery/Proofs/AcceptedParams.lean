import RemoteQuery.Proofs.AddressReading
import RemoteQuery.Proofs.PairSettings
import RemoteQuery.Proofs.PercentDecoding
import RemoteQuery.Proofs.ValidParams

/-!
# What is accepted as connection parameters

Parameters that are made are valid, whatever the settings they are made from. If they are read from
a string, the string names a region, each of its pieces gives a value to a parameter, and one of
them gives the role. A catalog that is named is not empty, so a string is never refused for an empty
catalog. All of this holds in whatever order the pairs are applied.
-/
namespace RemoteQuery.Address

theorem mem_setPair {pair other : String × String} {pairs : List (String × String)}
    (h : other ∈ setPair pair pairs) : other = pair ∨ other ∈ pairs := by
  induction pairs with
  | nil => exact .inl (List.mem_singleton.mp h)
  | cons earlier pairs ih =>
    obtain ⟨name, value⟩ := earlier
    rw [setPair] at h
    split at h
    · rcases List.mem_cons.mp h with same | later
      · exact .inl same
      · exact .inr (List.mem_cons_of_mem _ later)
    · rcases List.mem_cons.mp h with rfl | later
      · exact .inr List.mem_cons_self
      · exact (ih later).imp_right (List.mem_cons_of_mem _)

/-- Setting a pair adds its name to the names. -/
theorem mem_names_setPair {pair : String × String} {name : String}
    {pairs : List (String × String)} :
    name ∈ (setPair pair pairs).map Prod.fst ↔ name = pair.1 ∨ name ∈ pairs.map Prod.fst := by
  induction pairs with
  | nil => simp [setPair]
  | cons earlier pairs ih =>
    rw [setPair]
    split
    · rename_i same
      rw [List.map_cons, List.map_cons, List.mem_cons, List.mem_cons, same]
      tauto
    · rw [List.map_cons, List.map_cons, List.mem_cons, List.mem_cons, ih]
      tauto

theorem mem_collected {given before : List (String × String)} {pair : String × String}
    (h : pair ∈ given.foldl (fun pairs pair => setPair pair pairs) before) :
    pair ∈ given ∨ pair ∈ before := by
  induction given generalizing before with
  | nil => exact .inr h
  | cons first given ih =>
    rcases ih h with later | set
    · exact .inl (List.mem_cons_of_mem _ later)
    · rcases mem_setPair set with rfl | earlier
      · exact .inl List.mem_cons_self
      · exact .inr earlier

theorem mem_names_collected {given before : List (String × String)} {name : String} :
    name ∈ (given.foldl (fun pairs pair => setPair pair pairs) before).map Prod.fst ↔
      name ∈ given.map Prod.fst ∨ name ∈ before.map Prod.fst := by
  induction given generalizing before with
  | nil => simp
  | cons first given ih =>
    rw [List.foldl_cons, ih, mem_names_setPair, List.map_cons, List.mem_cons]
    tauto

theorem exists_of_forall₂ {α β : Type} {r : α → β → Prop} {left : List α} {right : List β}
    (all : List.Forall₂ r left right) {b : β} (member : b ∈ right) : ∃ a ∈ left, r a b := by
  induction all with
  | nil => cases member
  | @cons a _ left _ here _ ih =>
    rcases List.mem_cons.mp member with rfl | later
    · exact ⟨a, List.mem_cons_self, here⟩
    · obtain ⟨a, listed, related⟩ := ih later
      exact ⟨a, List.mem_cons_of_mem _ listed, related⟩

/-- Each collected pair is that of a piece. -/
theorem Collects.exists_piece {pieces : List (List Char)} {pairs : List (String × String)}
    (h : Collects pieces pairs) {pair : String × String} (member : pair ∈ pairs) :
    ∃ piece ∈ pieces, Encodes pair piece := by
  obtain ⟨all⟩ := h
  rcases mem_collected member with given | absent
  · obtain ⟨piece, kept, encodes⟩ := exists_of_forall₂ all given
    exact ⟨piece, (List.mem_filter.mp kept).1, encodes⟩
  · cases absent

/-- Each piece that is not empty has a pair, and its name is among those collected. -/
theorem Collects.exists_pair {pieces : List (List Char)} {pairs : List (String × String)}
    (h : Collects pieces pairs) {piece : List Char} (member : piece ∈ pieces)
    (nonempty : piece ≠ []) :
    ∃ pair, Encodes pair piece ∧ pair.1 ∈ pairs.map Prod.fst := by
  obtain ⟨all⟩ := h
  have kept : piece ∈ pieces.filter fun piece => !piece.isEmpty := by
    rw [List.mem_filter, List.isEmpty_eq_false_iff.mpr nonempty]
    exact ⟨member, rfl⟩
  obtain ⟨pair, given, encodes⟩ := exists_of_forall₂ all.flip kept
  exact ⟨pair, encodes, mem_names_collected.mpr (.inl (List.mem_map_of_mem given))⟩

/-- What is written as a catalog that is named is not nothing. -/
theorem Places.catalog_ne_empty {layout : Layout} {settings : ConnectionSettings} {text : List Char}
    (laid : LaidOut layout text) (h : Places layout settings) : settings.catalog ≠ some "" := by
  obtain ⟨_, _, catalog, _⟩ := laid
  cases h with
  | regional => nofun
  | cataloged _ named inCatalog =>
    rw [named] at catalog
    cases catalog with
    | named nonempty =>
      intro empty
      exact Text.Percent.lawful.ne_empty_of_decode inCatalog nonempty (Option.some.inj empty)

theorem required_error {parameter label : String} {given : Option String}
    {error : ConnectionError}
    (h : ConnectionSettings.required parameter label given = .error error) :
    ∃ cause, error = .invalidParameter parameter cause := by
  unfold ConnectionSettings.required at h
  split at h
  · cases h
    exact ⟨_, rfl⟩
  · split at h
    · cases h
      exact ⟨_, rfl⟩
    · cases h

theorem positive_error {parameter label : String} {duration : Duration} {error : ConnectionError}
    (h : ConnectionSettings.positive parameter label duration = .error error) :
    ∃ cause, error = .invalidParameter parameter cause := by
  unfold ConnectionSettings.positive at h
  split at h
  · cases h
    exact ⟨_, rfl⟩
  · cases h

/-- Where the catalog is not empty, another parameter is to blame. -/
theorem parameter_of_build_error {settings : ConnectionSettings} {error : ConnectionError}
    (named : settings.catalog ≠ some "") (h : settings.build = .error error) :
    ∃ parameter ∈ ["role_arn", "region", "timeout", "poll_interval"],
      ∃ cause, error = .invalidParameter parameter cause := by
  have catalog : (settings.catalog.getD ConnectionSettings.defaultCatalog).isEmpty = false := by
    rw [Bool.eq_false_iff, ne_eq, String.isEmpty_iff]
    cases given : settings.catalog with
    | none => decide
    | some text =>
      rintro rfl
      exact named given
  unfold ConnectionSettings.build at h
  simp only [catalog, bind_eq_error_iff] at h
  rcases h with failed | ⟨roleArn, _, failed | ⟨region, _, h⟩⟩
  · exact ⟨_, by simp, required_error failed⟩
  · exact ⟨_, by simp, required_error failed⟩
  · rw [if_neg Bool.false_ne_true] at h
    simp only [bind_eq_error_iff] at h
    rcases h with failed | ⟨timeout, _, failed | ⟨pollInterval, _, failed⟩⟩
    · exact ⟨_, by simp, positive_error failed⟩
    · exact ⟨_, by simp, positive_error failed⟩
    · cases failed

theorem role_of_build {settings : ConnectionSettings} {params : ConnectionParams}
    (h : settings.build = .ok params) : settings.roleArn = some params.roleArn := by
  unfold ConnectionSettings.build at h
  simp only [bind_eq_ok_iff, ConnectionSettings.required_eq_ok_iff] at h
  obtain ⟨roleArn, ⟨given, _⟩, region, _, h⟩ := h
  split at h
  · cases h
  · simp only [bind_eq_ok_iff] at h
    obtain ⟨timeout, _, pollInterval, _, h⟩ := h
    cases h
    exact given

/-- What a string has that is accepted: a region, a known name in every piece, and the role. -/
structure Accepts (layout : Layout) (params : ConnectionParams) : Prop where
  region : layout.region ≠ []
  known : ∀ piece ∈ layout.pieces, piece ≠ [] →
    ∃ pair parameter, Encodes pair piece ∧ (pair.1, parameter) ∈ parameterNames
  role : ∃ piece ∈ layout.pieces, ∃ name, (name, Parameter.role) ∈ parameterNames ∧
    Encodes (name, params.roleArn) piece

section Arranged

variable {arrangement : Arrangement} {text : String}

theorem Opens.exists_built {layout : Layout} {settings : ConnectionSettings}
    {pairs : List (String × String)} (opened : Opens text layout settings pairs)
    {params : ConnectionParams} (h : read arrangement text = .ok params) :
    ∃ after, applyPairs settings (arrangement.order pairs) = .ok after ∧
      after.build = .ok params := by
  rw [opened.read_eq] at h
  obtain ⟨after, applied, built⟩ := bind_eq_ok_iff.mp h
  refine ⟨after, applied, ?_⟩
  cases made : after.build with
  | ok others =>
    rw [made] at built
    exact congrArg _ (Except.ok.inj built)
  | error error =>
    rw [made] at built
    cases built

theorem Opens.accepts {layout : Layout} {settings : ConnectionSettings}
    {pairs : List (String × String)} (opened : Opens text layout settings pairs)
    {params : ConnectionParams} (h : read arrangement text = .ok params) :
    Accepts layout params := by
  have arranged {pair : String × String} : pair ∈ arrangement.order pairs ↔ pair ∈ pairs :=
    (arrangement.perm pairs).mem_iff
  obtain ⟨after, applied, built⟩ := opened.exists_built h
  obtain ⟨settable, _, role⟩ := applyPairs_ok applied
  refine ⟨opened.named, ?_, ?_⟩
  · intro piece member nonempty
    obtain ⟨pair, encodes, collected⟩ := opened.pairs.exists_pair member nonempty
    obtain ⟨other, listed, same⟩ := List.mem_map.mp collected
    obtain ⟨parameter, known, _⟩ := settable other (arranged.mpr listed)
    exact ⟨pair, parameter, encodes, same ▸ known⟩
  · rw [role_of_build built] at role
    rcases role with unset | ⟨⟨name, value⟩, listed, named, given⟩
    · cases opened.place <;> cases unset
    · obtain ⟨piece, member, encodes⟩ := opened.pairs.exists_piece (arranged.mp listed)
      cases given
      exact ⟨piece, member, name, named, encodes⟩

end Arranged

/-- Pairs are blamed by their names, and no parameter of a string is called a catalog. -/
theorem Fails.not_emptyCatalog {pair : String × String} {fault : Fault} (h : Fails pair fault) :
    fault ≠ .refused (.invalidParameter "catalog" "Catalog cannot be empty") := by
  cases h with
  | unknown =>
    intro same
    injection same with same
    injection same with _ same
    exact absurd same (by decide)
  | @unread name value parameter _ known timed failed =>
    have other : ∀ entry ∈ parameterNames, entry.1 ≠ "catalog" := by decide
    rintro rfl
    rcases readSeconds_error failed with same | same
    · injection same with same
      injection same with same
      exact other _ known same.symm
    · cases same

theorem read_ne_emptyCatalog (arrangement : Arrangement) (text : String) :
    read arrangement text ≠
      .error (.refused (.invalidParameter "catalog" "Catalog cannot be empty")) := by
  rcases opens_or_malformed text with ⟨layout, settings, pairs, opened⟩ | ⟨cause, failed⟩
  · rw [opened.read_eq]
    intro h
    rcases bind_eq_error_iff.mp h with failed | ⟨after, applied, failed⟩
    · obtain ⟨_, pair, _, _, _, fails⟩ := applyPairs_eq_error_iff.mp failed
      exact fails.not_emptyCatalog rfl
    · have named : after.catalog ≠ some "" := by
        rw [(applyPairs_ok applied).2.1]
        exact opened.place.catalog_ne_empty opened.laid
      cases built : after.build with
      | ok params =>
        rw [built] at failed
        cases failed
      | error error =>
        rw [built] at failed
        cases failed
        obtain ⟨parameter, listed, cause, same⟩ := parameter_of_build_error named built
        injection same with same
        subst same
        exact absurd listed (by decide)
  · rw [read_of_malformed arrangement failed]
    nofun

/-- Parameters can be made just if they are valid. Those that are read from a string are, in
whatever order its pairs are applied, and the string begins with the scheme, names a region, has a
known name in each of its pieces and the role in one of them. It is never an empty catalog that a
string is refused for. -/
theorem accepted_params_valid :
    (∀ params : ConnectionParams,
      (∃ settings : ConnectionSettings, settings.build = .ok params) ↔ params.Valid) ∧
    (∀ arrangement text params, read arrangement text = .ok params → params.Valid ∧
      ∃ layout, LaidOut layout (Text.trim text.toList) ∧ Accepts layout params) ∧
    ∀ arrangement text, read arrangement text ≠
      .error (.refused (.invalidParameter "catalog" "Catalog cannot be empty")) := by
  refine ⟨?_, ?_, read_ne_emptyCatalog⟩
  · intro params
    constructor
    · rintro ⟨settings, built⟩
      exact ConnectionSettings.build_valid built
    · intro valid
      exact ⟨params.settings, ConnectionSettings.build_settings valid⟩
  · intro arrangement text params accepted
    obtain ⟨settings, built⟩ := read_built accepted
    refine ⟨ConnectionSettings.build_valid built, ?_⟩
    rcases opens_or_malformed text with ⟨layout, settings, pairs, opened⟩ | ⟨cause, failed⟩
    · exact ⟨layout, opened.laid, opened.accepts accepted⟩
    · rw [read_of_malformed arrangement failed] at accepted
      cases accepted

/-- Blanks around, slashes without a catalog, empty pieces, and both names of the role, of which the
one that is applied last counts. -/
theorem accepted_params_valid_repeated :
    let text := " athena://r//?&role=&workgroup=&&rol%65_arn=a "
    let params : ConnectionParams :=
      { roleArn := "a", region := "r", workgroup := none, catalog := "AwsDataCatalog"
        schema := none, outputLocation := none, timeout := .ofSeconds 3600
        pollInterval := .ofSeconds 1, sessionName := "athena-cursor" }
    read .occurring text = .ok params ∧ params.Valid ∧
      ∃ layout, LaidOut layout (Text.trim text.toList) ∧ Accepts layout params := by
  intro text params
  have accepted : read .occurring text = .ok params := by decide +kernel
  exact ⟨accepted, accepted_params_valid.2.1 .occurring text params accepted⟩

end RemoteQuery.Address
