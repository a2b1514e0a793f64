import RemoteQuery.Proofs.ParameterSettings

/-!
# Connection strings read back

Parameters that a builder makes can be written as connection strings, and every one of these is read
as the parameters that were written, in whatever order its pairs are applied.
-/
namespace RemoteQuery.Address

/-- Pairs that are arranged anew give the same parameters, in another order. -/
theorem gives_arranged {params : ConnectionParams} {given : List Parameter}
    {pairs arranged : List (String × String)} (h : List.Forall₂ (Gives params) given pairs)
    (perm : arranged.Perm pairs) :
    ∃ others, List.Forall₂ (Gives params) others arranged ∧ others.Perm given := by
  obtain ⟨others, all, same⟩ := List.perm_comp_forall₂ perm h.flip
  exact ⟨others, all.flip, same⟩

theorem readParts_of_written {params : ConnectionParams} (valid : params.Valid) {text : String}
    (h : Written params text) :
    ∃ given pairs, List.Forall₂ (Gives params) given pairs ∧
      (∀ parameter, parameter ∈ given ↔ (valueText? params parameter).isSome = true) ∧
      readParts text =
        .ok ({ region := some params.region, catalog := some params.catalog }, pairs) := by
  obtain ⟨start, finish, inRegion, inCatalog, pairs⟩ := h
  have joined : ∀ piece ∈ _, '&' ∉ piece := fun piece member here =>
    (pairs.solid piece member '&' here).2 rfl
  obtain ⟨decoded, gives, read⟩ := decodePairs_of_given pairs.once pairs.pairs
    (fun _ _ earlier (member : earlier ∈ []) => nomatch member)
  refine ⟨_, decoded, gives, pairs.present, ?_⟩
  rw [readParts, String.toList_ofList,
    Text.trim_of_padded start finish (isBlank_written inRegion inCatalog pairs),
    afterScheme?_eq_some_iff.mpr rfl]
  simp only [splitPairs_written _ (not_separator inRegion (by decide))
    (not_separator inCatalog (by decide)) joined pairs.ne_nil]
  refine bind_eq_ok_iff.mpr ⟨decoded, read, ?_⟩
  exact bind_eq_ok_iff.mpr ⟨_, readPlace_written valid _ inRegion inCatalog, rfl⟩

theorem read_of_written (arrangement : Arrangement) {params : ConnectionParams}
    (valid : params.Valid) (timeout : params.timeout.IsWhole)
    (pollInterval : params.pollInterval.IsWhole) {text : String} (h : Written params text) :
    read arrangement text = .ok params := by
  obtain ⟨given, pairs, gives, present, parts⟩ := readParts_of_written valid h
  obtain ⟨others, arranged, same⟩ := gives_arranged gives (arrangement.perm pairs)
  have presentToo : ∀ parameter, parameter ∈ others ↔ (valueText? params parameter).isSome = true :=
    fun parameter => same.mem_iff.trans (present parameter)
  refine bind_eq_ok_iff.mpr ⟨_, parts, ?_⟩
  refine bind_eq_ok_iff.mpr ⟨_, applyPairs_place timeout pollInterval arranged presentToo, ?_⟩
  rw [ConnectionSettings.build_settings valid]
  rfl

theorem exists_givenBy {params : ConnectionParams} {parameter : Parameter}
    (present : (valueText? params parameter).isSome = true) :
    ∃ piece, GivenBy params parameter piece := by
  have named : ∃ entry ∈ parameterNames, entry.2 = parameter := by cases parameter <;> decide
  obtain ⟨⟨name, _⟩, known, rfl⟩ := named
  obtain ⟨value, given⟩ := Option.isSome_iff_exists.mp present
  exact ⟨_, (name, value), _, ⟨known, given⟩, Text.Percent.lawful.writes_encode value, rfl⟩

theorem exists_pieces {params : ConnectionParams} {given : List Parameter}
    (present : ∀ parameter ∈ given, (valueText? params parameter).isSome = true) :
    ∃ pieces : List (List Char),
      List.Forall₂ (GivenBy params) given (pieces.filter fun piece => !piece.isEmpty) := by
  induction given with
  | nil => exact ⟨[], .nil⟩
  | cons parameter given ih =>
    obtain ⟨here, rest⟩ := List.forall_mem_cons.mp present
    obtain ⟨piece, givenBy⟩ := exists_givenBy here
    obtain ⟨pieces, all⟩ := ih rest
    have nonempty : (!piece.isEmpty) = true := by
      obtain ⟨pair, value, _, _, rfl⟩ := givenBy
      cases pair.1.toList <;> rfl
    refine ⟨piece :: pieces, ?_⟩
    rw [List.filter_cons_of_pos (p := fun piece : List Char => !piece.isEmpty) nonempty]
    exact .cons givenBy all

theorem exists_written (params : ConnectionParams) : ∃ text, Written params text := by
  let every : List Parameter :=
    [.role, .workgroup, .schema, .output, .timeout, .pollInterval, .sessionName]
  have all (parameter : Parameter) : parameter ∈ every := by cases parameter <;> decide
  let given := every.filter fun parameter => (valueText? params parameter).isSome
  obtain ⟨pieces, pairs⟩ := @exists_pieces params given fun parameter member =>
    (List.mem_filter.mp member).2
  have once : every.Nodup := by decide
  have givesAll : GivesAll params given pieces :=
    ⟨once.filter _, fun parameter => by simp [given, all], pairs⟩
  exact ⟨_, @Written.intro params [] [] _ _ 0 given pieces nofun nofun
    (Text.Percent.lawful.writes_encode params.region)
    (Text.Percent.lawful.writes_encode params.catalog) givesAll⟩

/-- Parameters that a builder makes, with durations of whole seconds, can be written as a connection
string, and each string that they are written as is read as these parameters, in whatever order its
pairs are applied. -/
theorem read_written {settings : ConnectionSettings} {params : ConnectionParams}
    (built : settings.build = .ok params) (timeout : params.timeout.IsWhole)
    (pollInterval : params.pollInterval.IsWhole) :
    (∃ text, Written params text) ∧
      ∀ text, Written params text → ∀ arrangement, read arrangement text = .ok params := by
  have valid := ConnectionSettings.build_valid built
  refine ⟨exists_written params, ?_⟩
  intro text written arrangement
  exact read_of_written arrangement valid timeout pollInterval written

/-- Separators and a letter outside ASCII in the values, the longest duration, both cases of digits,
empty pairs, slashes and blanks. -/
theorem read_written_separators :
    let params : ConnectionParams :=
      { roleArn := "r&=?", region := "é/", workgroup := none, catalog := "c d"
        schema := some "%+", outputLocation := none, timeout := .ofSeconds (Nat.pow 2 53)
        pollInterval := .ofSeconds 1, sessionName := "s" }
    let text := "\n athena://%C3%a9%2F/c%20d//?&timeout=9007199254740992&&role_arn=r%26%3D%3f&" ++
      "database=%25%2b&session_name=s&poll_interval=1& "
    params.settings.build = .ok params ∧ params.timeout.IsWhole ∧ params.pollInterval.IsWhole ∧
      Written params text ∧ ∀ arrangement, read arrangement text = .ok params := by
  intro params text
  have built : params.settings.build = .ok params := by decide
  have timeout : params.timeout.IsWhole := ⟨Nat.pow 2 53, by decide, by decide, rfl⟩
  have pollInterval : params.pollInterval.IsWhole := ⟨1, by decide, by decide, rfl⟩
  have written : Written params text := by
    have region : Text.Percent.Writes "é/" "%C3%a9%2F".toList :=
      .escaped rfl rfl (.escaped rfl rfl (.escaped rfl rfl .nil))
    have catalog : Text.Percent.Writes "c d" "c%20d".toList :=
      .plain rfl (.escaped rfl rfl (.plain rfl .nil))
    let pieces := [[], "timeout=9007199254740992".toList, [], "role_arn=r%26%3D%3f".toList,
      "database=%25%2b".toList, "session_name=s".toList, "poll_interval=1".toList, []]
    have pairs :
        GivesAll params [.timeout, .role, .schema, .sessionName, .pollInterval] pieces := by
      refine ⟨by decide, ?_, ?_⟩
      · intro parameter
        cases parameter <;> decide
      · have digits : Text.Percent.Writes "9007199254740992" "9007199254740992".toList := by
          repeat first | exact .nil | refine .plain rfl ?_
        have role : Text.Percent.Writes "r&=?" "r%26%3D%3f".toList :=
          .plain rfl (.escaped rfl rfl (.escaped rfl rfl (.escaped rfl rfl .nil)))
        have schema : Text.Percent.Writes "%+" "%25%2b".toList :=
          .escaped rfl rfl (.escaped rfl rfl .nil)
        refine .cons ⟨("timeout", "9007199254740992"), _, ⟨by decide, by decide⟩, digits, rfl⟩ ?_
        refine .cons ⟨("role_arn", "r&=?"), _, ⟨by decide, rfl⟩, role, rfl⟩ ?_
        refine .cons ⟨("database", "%+"), _, ⟨by decide, rfl⟩, schema, rfl⟩ ?_
        refine .cons ⟨("session_name", "s"), _, ⟨by decide, rfl⟩, .plain rfl .nil, rfl⟩ ?_
        exact .cons ⟨("poll_interval", "1"), _, ⟨by decide, by decide⟩, .plain rfl .nil, rfl⟩ .nil
    have shape : text.toList = "\n ".toList ++
        (scheme.toList ++ writtenRest "%C3%a9%2F".toList "c%20d".toList 2 pieces) ++
          " ".toList := by
      decide +kernel
    rw [← String.ofList_toList (s := text), shape]
    exact .intro (List.all_eq_true.mp (by decide)) (List.all_eq_true.mp (by decide)) region catalog
      pairs
  exact ⟨built, timeout, pollInterval, written,
    (read_written built timeout pollInterval).2 text written⟩

end RemoteQuery.Address
