import RemoteQuery.Proofs.WholeSeconds
import RemoteQuery.Proofs.WrittenAddress

/-!
# What the pairs of parameters set

The pairs are kept apart by what they set. Setting a parameter to its value does not interfere with
setting another, so after all pairs the settings are those of the parameters, whatever the order.
-/
namespace RemoteQuery.Address

/-- Takes what one parameter sets from other settings. -/
def take (source : ConnectionSettings) : Parameter → ConnectionSettings → ConnectionSettings
  | .role, settings => { settings with roleArn := source.roleArn }
  | .workgroup, settings => { settings with workgroup := source.workgroup }
  | .schema, settings => { settings with schema := source.schema }
  | .output, settings => { settings with outputLocation := source.outputLocation }
  | .timeout, settings => { settings with timeout := source.timeout }
  | .pollInterval, settings => { settings with pollInterval := source.pollInterval }
  | .sessionName, settings => { settings with sessionName := source.sessionName }

theorem take_take_self (source settings : ConnectionSettings) (parameter : Parameter) :
    take source parameter (take source parameter settings) = take source parameter settings := by
  cases parameter <;> rfl

theorem take_comm (source settings : ConnectionSettings) (one other : Parameter) :
    take source one (take source other settings) =
      take source other (take source one settings) := by
  cases one <;> cases other <;> rfl

theorem take_place (source settings : ConnectionSettings) (parameter : Parameter) :
    (take source parameter settings).region = settings.region ∧
      (take source parameter settings).catalog = settings.catalog := by
  cases parameter <;> exact ⟨rfl, rfl⟩

theorem take_all {source settings : ConnectionSettings}
    (region : settings.region = source.region) (catalog : settings.catalog = source.catalog) :
    take source .role (take source .workgroup (take source .schema (take source .output
      (take source .timeout (take source .pollInterval (take source .sessionName settings)))))) =
        source := by
  cases source
  cases settings
  cases region
  cases catalog
  rfl

theorem eq_of_take_eq_self {source settings : ConnectionSettings}
    (region : settings.region = source.region) (catalog : settings.catalog = source.catalog)
    (taken : ∀ parameter, take source parameter settings = settings) : settings = source := by
  have all := take_all region catalog
  simp only [taken] at all
  exact all

theorem foldl_take_eq {source settings : ConnectionSettings} {given : List Parameter}
    (region : settings.region = source.region) (catalog : settings.catalog = source.catalog)
    (others : ∀ parameter ∉ given, take source parameter settings = settings) :
    given.foldl (fun settings parameter => take source parameter settings) settings = source := by
  induction given generalizing settings with
  | nil => exact eq_of_take_eq_self region catalog fun parameter => others parameter nofun
  | cons first given ih =>
    obtain ⟨sameRegion, sameCatalog⟩ := take_place source settings first
    refine ih (sameRegion.trans region) (sameCatalog.trans catalog) ?_
    intro parameter absent
    by_cases same : parameter = first
    · rw [same, take_take_self]
    · rw [take_comm, others parameter (List.not_mem_cons_of_ne_of_not_mem same absent)]

theorem applyPair_of_gives {params : ConnectionParams} (timeout : params.timeout.IsWhole)
    (pollInterval : params.pollInterval.IsWhole) {parameter : Parameter} {pair : String × String}
    (h : Gives params parameter pair) (settings : ConnectionSettings) :
    applyPair settings pair.1 pair.2 = .ok (take params.settings parameter settings) := by
  have value := h.value
  rw [applyPair, lookup_of_known h.name]
  cases parameter with
  | role | workgroup | schema | output | sessionName =>
    simp only [← value]
    rfl
  | timeout =>
    rw [← Option.some.inj value]
    exact bind_eq_ok_iff.mpr ⟨_, readSeconds_of_isWhole timeout _, rfl⟩
  | pollInterval =>
    rw [← Option.some.inj value]
    exact bind_eq_ok_iff.mpr ⟨_, readSeconds_of_isWhole pollInterval _, rfl⟩

theorem applyPairs_of_gives {params : ConnectionParams} (timeout : params.timeout.IsWhole)
    (pollInterval : params.pollInterval.IsWhole) {given : List Parameter}
    {pairs : List (String × String)} (h : List.Forall₂ (Gives params) given pairs)
    (settings : ConnectionSettings) :
    applyPairs settings pairs =
      .ok (given.foldl (fun settings parameter => take params.settings parameter settings)
        settings) := by
  induction h generalizing settings with
  | nil => rfl
  | @cons parameter pair given pairs gives _ ih =>
    obtain ⟨name, value⟩ := pair
    exact bind_eq_ok_iff.mpr ⟨_, applyPair_of_gives timeout pollInterval gives settings, ih _⟩

/-- The pairs of all parameters that have a value set everything but the place. -/
theorem applyPairs_place {params : ConnectionParams} (timeout : params.timeout.IsWhole)
    (pollInterval : params.pollInterval.IsWhole) {given : List Parameter}
    {pairs : List (String × String)} (h : List.Forall₂ (Gives params) given pairs)
    (present : ∀ parameter, parameter ∈ given ↔ (valueText? params parameter).isSome = true) :
    applyPairs { region := some params.region, catalog := some params.catalog } pairs =
      .ok params.settings := by
  rw [applyPairs_of_gives timeout pollInterval h]
  refine congrArg Except.ok (foldl_take_eq rfl rfl ?_)
  intro parameter absent
  have missing : valueText? params parameter = none := by
    rw [present, Bool.not_eq_true, Option.isSome_eq_false_iff, Option.isNone_iff_eq_none] at absent
    exact absent
  cases parameter with
  | workgroup | schema | output =>
    simp only [valueText?] at missing
    simp only [take, ConnectionParams.settings, missing]
  | role | timeout | pollInterval | sessionName => cases missing

end RemoteQuery.Address
