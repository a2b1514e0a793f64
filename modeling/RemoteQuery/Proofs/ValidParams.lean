import RemoteQuery.Connection.Address

/-!
# Valid connection parameters

Parameters are made from settings only, also those that are read from a connection string. What is
made is valid, and valid parameters are what their own settings make.
-/
namespace RemoteQuery

structure ConnectionParams.Valid (params : ConnectionParams) : Prop where
  roleArn : Text.isBlankText params.roleArn = false
  region : Text.isBlankText params.region = false
  workgroup : params.workgroup ≠ some ""
  catalog : params.catalog ≠ ""
  schema : params.schema ≠ some ""
  outputLocation : params.outputLocation ≠ some ""
  timeout : params.timeout.isZero = false
  pollInterval : params.pollInterval.isZero = false
  sessionName : params.sessionName ≠ ""

/-- The settings that give each parameter its value. -/
def ConnectionParams.settings (params : ConnectionParams) : ConnectionSettings :=
  { roleArn := some params.roleArn
    region := some params.region
    workgroup := params.workgroup
    catalog := some params.catalog
    schema := params.schema
    outputLocation := params.outputLocation
    timeout := some params.timeout
    pollInterval := some params.pollInterval
    sessionName := some params.sessionName }

namespace ConnectionSettings

theorem nonEmpty?_ne_some_empty (text : Option String) : nonEmpty? text ≠ some "" := by
  intro h
  obtain ⟨_, nonempty⟩ := Option.filter_eq_some_iff.mp h
  cases nonempty

theorem nonEmpty?_eq_self {text : Option String} (h : text ≠ some "") : nonEmpty? text = text := by
  cases text with
  | none => rfl
  | some text =>
    have nonempty : text.isEmpty = false := by
      rw [Bool.eq_false_iff, ne_eq, String.isEmpty_iff]
      rintro rfl
      exact h rfl
    simp [nonEmpty?, nonempty]

theorem required_eq_ok_iff {parameter label text : String} {given : Option String} :
    required parameter label given = .ok text ↔
      given = some text ∧ Text.isBlankText text = false := by
  cases given with
  | none => exact ⟨nofun, fun h => nomatch h.1⟩
  | some given =>
    rw [required]
    split
    · rename_i blank
      refine ⟨nofun, ?_⟩
      rintro ⟨⟨⟩, nonblank⟩
      rw [blank] at nonblank
      cases nonblank
    · rename_i nonblank
      constructor
      · rintro ⟨⟩
        exact ⟨rfl, Bool.eq_false_iff.mpr nonblank⟩
      · rintro ⟨⟨⟩, _⟩
        rfl

theorem positive_eq_ok_iff {parameter label : String} {given duration : Duration} :
    positive parameter label given = .ok duration ↔
      given = duration ∧ duration.isZero = false := by
  rw [positive]
  split
  · rename_i zero
    refine ⟨nofun, ?_⟩
    rintro ⟨rfl, positive⟩
    rw [zero] at positive
    cases positive
  · rename_i positive
    constructor
    · rintro ⟨⟩
      exact ⟨rfl, Bool.eq_false_iff.mpr positive⟩
    · rintro ⟨rfl, _⟩
      rfl

theorem build_valid {settings : ConnectionSettings} {params : ConnectionParams}
    (h : settings.build = .ok params) : params.Valid := by
  unfold build at h
  simp only [bind_eq_ok_iff, required_eq_ok_iff] at h
  obtain ⟨roleArn, ⟨_, role⟩, region, ⟨_, place⟩, h⟩ := h
  split at h
  · cases h
  · rename_i catalog
    simp only [bind_eq_ok_iff, positive_eq_ok_iff] at h
    obtain ⟨timeout, ⟨_, lasting⟩, pollInterval, ⟨_, pausing⟩, h⟩ := h
    cases h
    refine ⟨role, place, nonEmpty?_ne_some_empty _, ?_, nonEmpty?_ne_some_empty _,
      nonEmpty?_ne_some_empty _, lasting, pausing, ?_⟩
    · rintro empty
      exact catalog (String.isEmpty_iff.mpr empty)
    · cases named : nonEmpty? settings.sessionName with
      | none =>
        change defaultSessionName ≠ ""
        decide
      | some name =>
        rintro rfl
        exact nonEmpty?_ne_some_empty _ named

theorem build_settings {params : ConnectionParams} (h : params.Valid) :
    params.settings.build = .ok params := by
  have catalog : ¬ params.catalog.isEmpty = true := fun empty =>
    h.catalog (String.isEmpty_iff.mp empty)
  have session : nonEmpty? (some params.sessionName) = some params.sessionName :=
    nonEmpty?_eq_self fun empty => h.sessionName (Option.some.inj empty)
  unfold build
  simp only [bind_eq_ok_iff, required_eq_ok_iff]
  refine ⟨params.roleArn, ⟨rfl, h.roleArn⟩, params.region, ⟨rfl, h.region⟩, ?_⟩
  rw [if_neg (show ¬ (params.settings.catalog.getD defaultCatalog).isEmpty = true from catalog)]
  simp only [bind_eq_ok_iff, positive_eq_ok_iff]
  refine ⟨params.timeout, ⟨rfl, h.timeout⟩, params.pollInterval, ⟨rfl, h.pollInterval⟩, ?_⟩
  simp only [ConnectionParams.settings, nonEmpty?_eq_self h.workgroup, nonEmpty?_eq_self h.schema,
    nonEmpty?_eq_self h.outputLocation, session]
  rfl

end ConnectionSettings

theorem Address.read_built {arrangement : Arrangement} {text : String} {params : ConnectionParams}
    (h : read arrangement text = .ok params) :
    ∃ settings : ConnectionSettings, settings.build = .ok params := by
  obtain ⟨⟨place, pairs⟩, _, rest⟩ := bind_eq_ok_iff.mp h
  obtain ⟨settings, _, built⟩ := bind_eq_ok_iff.mp rest
  refine ⟨settings, ?_⟩
  split at built
  · rename_i made
    cases built
    exact made
  · cases built

/-- The parameters come from a builder or from a connection string. -/
def ConnectionParams.Obtained (params : ConnectionParams) : Prop :=
  (∃ settings : ConnectionSettings, settings.build = .ok params) ∨
    ∃ arrangement text, Address.read arrangement text = .ok params

theorem ConnectionParams.Obtained.valid {params : ConnectionParams} (h : params.Obtained) :
    params.Valid := by
  rcases h with ⟨settings, built⟩ | ⟨arrangement, text, read⟩
  · exact ConnectionSettings.build_valid built
  · obtain ⟨settings, built⟩ := Address.read_built read
    exact ConnectionSettings.build_valid built

end RemoteQuery
