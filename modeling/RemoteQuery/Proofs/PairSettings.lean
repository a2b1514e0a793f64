import RemoteQuery.Connection.Address

/-!
# Pairs applied to settings

Whether a pair can be applied does not depend on the settings that it is applied to. Pairs are
applied one after the other until one cannot be, and that one is to blame.
-/
namespace RemoteQuery.Address

def Parameter.IsDuration (parameter : Parameter) : Prop :=
  parameter = .timeout ∨ parameter = .pollInterval

/-- The pair has a known name and, if a duration is asked for, a value that is one. -/
def Settable (pair : String × String) : Prop :=
  ∃ parameter, (pair.1, parameter) ∈ parameterNames ∧
    (parameter.IsDuration → ∃ duration, readSeconds pair.1 pair.2 = .ok duration)

/-- What is wrong with a pair that cannot be applied. -/
inductive Fails : String × String → Fault → Prop
  | unknown {name value : String} (unlisted : ∀ parameter, (name, parameter) ∉ parameterNames) :
      Fails (name, value) (.refused (.invalidParameter name "Unknown connection parameter"))
  | unread {name value : String} {parameter : Parameter} {fault : Fault}
      (known : (name, parameter) ∈ parameterNames) (timed : parameter.IsDuration)
      (failed : readSeconds name value = .error fault) : Fails (name, value) fault

theorem readSeconds_error {parameter value : String} {fault : Fault}
    (h : readSeconds parameter value = .error fault) :
    fault = .refused (.invalidParameter parameter ("Invalid duration in seconds: " ++ value)) ∨
      fault = .durationOverflow parameter := by
  rw [readSeconds] at h
  split at h
  · cases h
    exact .inl rfl
  · simp only at h
    split at h
    · cases h
    · cases h
      exact .inr rfl

theorem lookup_of_known {name : String} {parameter : Parameter}
    (known : (name, parameter) ∈ parameterNames) : parameterNames.lookup name = some parameter := by
  have names : ∀ entry ∈ parameterNames, parameterNames.lookup entry.1 = some entry.2 := by decide
  exact names _ known

theorem lookup_eq_some_iff {name : String} {parameter : Parameter} :
    parameterNames.lookup name = some parameter ↔ (name, parameter) ∈ parameterNames := by
  refine ⟨fun found => ?_, lookup_of_known⟩
  obtain ⟨before, after, split, _⟩ := List.lookup_eq_some_iff.mp found
  rw [split]
  exact List.mem_append_right _ List.mem_cons_self

/-- Where each parameter puts its value. The place is not a parameter. -/
theorem applyPair_of_known {settings after : ConnectionSettings} {name value : String}
    {parameter : Parameter} (known : (name, parameter) ∈ parameterNames)
    (applied : applyPair settings name value = .ok after) :
    after.catalog = settings.catalog ∧
      (after.roleArn = settings.roleArn ∨ parameter = .role ∧ after.roleArn = some value) := by
  rw [applyPair, lookup_of_known known] at applied
  cases parameter with
  | role =>
    cases applied
    exact ⟨rfl, .inr ⟨rfl, rfl⟩⟩
  | workgroup | schema | output | sessionName =>
    cases applied
    exact ⟨rfl, .inl rfl⟩
  | timeout | pollInterval =>
    obtain ⟨duration, _, made⟩ := bind_eq_ok_iff.mp applied
    cases made
    exact ⟨rfl, .inl rfl⟩

theorem applyPair_cases (settings : ConnectionSettings) (name value : String) :
    (Settable (name, value) ∧ ∃ after, applyPair settings name value = .ok after) ∨
      ∃ fault, Fails (name, value) fault ∧ applyPair settings name value = .error fault := by
  rw [applyPair]
  cases found : parameterNames.lookup name with
  | none =>
    refine .inr ⟨_, .unknown fun parameter known => ?_, rfl⟩
    rw [lookup_of_known known] at found
    cases found
  | some parameter =>
    have known := lookup_eq_some_iff.mp found
    cases parameter with
    | role | workgroup | schema | output | sessionName =>
      refine .inl ⟨⟨_, known, ?_⟩, _, rfl⟩
      rintro (timed | timed) <;> cases timed
    | timeout =>
      cases read : readSeconds name value with
      | ok duration => exact .inl ⟨⟨_, known, fun _ => ⟨duration, read⟩⟩, _, rfl⟩
      | error fault => exact .inr ⟨fault, .unread known (.inl rfl) read, rfl⟩
    | pollInterval =>
      cases read : readSeconds name value with
      | ok duration => exact .inl ⟨⟨_, known, fun _ => ⟨duration, read⟩⟩, _, rfl⟩
      | error fault => exact .inr ⟨fault, .unread known (.inr rfl) read, rfl⟩

theorem Fails.not_settable {pair : String × String} {fault : Fault} (h : Fails pair fault) :
    ¬ Settable pair := by
  rintro ⟨parameter, known, held⟩
  cases h with
  | unknown unlisted => exact unlisted parameter known
  | unread knownToo timed failed =>
    have same := (lookup_of_known known).symm.trans (lookup_of_known knownToo)
    cases same
    obtain ⟨duration, read⟩ := held timed
    rw [read] at failed
    cases failed

theorem Fails.unique {pair : String × String} {fault other : Fault} (h : Fails pair fault)
    (another : Fails pair other) : fault = other := by
  cases h with
  | unknown unlisted =>
    cases another with
    | unknown => rfl
    | unread known => exact (unlisted _ known).elim
  | unread known _ failed =>
    cases another with
    | unknown unlisted => exact (unlisted _ known).elim
    | unread _ _ failedToo => exact Except.error.inj (failed.symm.trans failedToo)

theorem applyPairs_eq_error_iff {settings : ConnectionSettings} {pairs : List (String × String)}
    {fault : Fault} :
    applyPairs settings pairs = .error fault ↔
      ∃ before pair after, pairs = before ++ pair :: after ∧
        (∀ earlier ∈ before, Settable earlier) ∧ Fails pair fault := by
  induction pairs generalizing settings with
  | nil =>
    refine ⟨nofun, ?_⟩
    rintro ⟨before, pair, after, split, _⟩
    cases before <;> cases split
  | cons pair pairs ih =>
    obtain ⟨name, value⟩ := pair
    change (applyPair settings name value >>= fun settings => applyPairs settings pairs) = _ ↔ _
    rcases applyPair_cases settings name value with
      ⟨settable, next, applied⟩ | ⟨cause, fails, failed⟩
    · rw [applied]
      change applyPairs next pairs = _ ↔ _
      rw [ih]
      constructor
      · rintro ⟨before, pair, after, rfl, earlier, fails⟩
        exact ⟨(name, value) :: before, pair, after, rfl,
          List.forall_mem_cons.mpr ⟨settable, earlier⟩, fails⟩
      · rintro ⟨before, pair, after, split, earlier, fails⟩
        cases before with
        | nil =>
          cases split
          exact (fails.not_settable settable).elim
        | cons first before =>
          cases split
          exact ⟨before, pair, after, rfl, (List.forall_mem_cons.mp earlier).2, fails⟩
    · rw [failed]
      change Except.error cause = _ ↔ _
      rw [Except.error.injEq]
      constructor
      · rintro rfl
        exact ⟨[], (name, value), pairs, rfl, nofun, fails⟩
      · rintro ⟨before, pair, after, split, earlier, failsToo⟩
        cases before with
        | nil =>
          cases split
          exact fails.unique failsToo
        | cons first before =>
          cases split
          exact (fails.not_settable (earlier _ List.mem_cons_self)).elim

/-- Pairs that can all be applied leave the catalog alone, and the role is that of one of them. -/
theorem applyPairs_ok {settings after : ConnectionSettings} {pairs : List (String × String)}
    (h : applyPairs settings pairs = .ok after) :
    (∀ pair ∈ pairs, Settable pair) ∧ after.catalog = settings.catalog ∧
      (after.roleArn = settings.roleArn ∨
        ∃ pair ∈ pairs,
          (pair.1, Parameter.role) ∈ parameterNames ∧ after.roleArn = some pair.2) := by
  induction pairs generalizing settings with
  | nil =>
    cases h
    exact ⟨nofun, rfl, .inl rfl⟩
  | cons pair pairs ih =>
    obtain ⟨name, value⟩ := pair
    obtain ⟨next, applied, rest⟩ := bind_eq_ok_iff.mp h
    obtain ⟨settable, catalog, role⟩ := ih rest
    rcases applyPair_cases settings name value with ⟨here, _⟩ | ⟨fault, _, failed⟩
    · have ⟨parameter, known, _⟩ := here
      obtain ⟨kept, roleHere⟩ := applyPair_of_known known applied
      refine ⟨List.forall_mem_cons.mpr ⟨here, settable⟩, catalog.trans kept, ?_⟩
      rcases role with same | ⟨pair, member, named, given⟩
      · rcases roleHere with sameToo | ⟨rfl, given⟩
        · exact .inl (same.trans sameToo)
        · exact .inr ⟨(name, value), List.mem_cons_self, known, same.trans given⟩
      · exact .inr ⟨pair, List.mem_cons_of_mem _ member, named, given⟩
    · rw [applied] at failed
      cases failed

end RemoteQuery.Address
