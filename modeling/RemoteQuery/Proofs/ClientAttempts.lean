import RemoteQuery.Proofs.ConnectionCalls

/-!
# Obtaining the client

A client that is held is taken without a call. Otherwise the provider is asked once, and what it
answers is what becomes of the action: a failure is its answer and leaves the connection as it was.
Options are checked before, in a fixed order, and a refusal asks for nothing.
-/
namespace RemoteQuery.Connection

variable {provider : Nat → Reply ConnectionError Client} {connection kept later : Connection}
  {line after : Line} {action : Action} {answer : Answer} {options : CursorOptions}
  {calls : List TimedCall}

theorem obtainClient_obtains {result : Except ConnectionError Client}
    (provided : line.service.credentials = some provider)
    (h : connection.obtainClient line = (result, kept, after)) :
    ∃ calls, Obtains provider connection line result calls kept after ∧
      after.attempts = line.attempts + attemptsIn calls := by
  unfold obtainClient at h
  cases holds : connection.client with
  | some client =>
    simp only [holds] at h
    cases h
    exact ⟨[], .held holds, rfl⟩
  | none =>
    simp only [holds, Line.assumeRole, provided, Line.ask] at h
    have asked : line.Reaches [connection.attempt line]
        (({ line with attempts := line.attempts + 1 }.begin (connection.attempt line).call
          (provider line.attempts).interrupts).wait (provider line.attempts).delay) :=
      ⟨rfl, rfl, rfl, rfl, rfl, rfl, rfl, Nat.le_add_right _ _⟩
    cases answer : (provider line.attempts).result with
    | error cause =>
      rw [answer] at h
      cases h
      exact ⟨_, .failed holds answer asked, rfl⟩
    | ok client =>
      rw [answer] at h
      cases h
      exact ⟨_, .granted holds answer asked, rfl⟩

/-- Options that are not valid are refused in the order of their checks. -/
theorem validate_eq_error {cause : ProgrammingError} (opened : connection.closed = false)
    (h : options.validate = .error cause) : connection.Refuses options cause := by
  unfold CursorOptions.validate at h
  split at h
  · rename_i zero
    cases h
    exact .pollInterval opened zero
  · rename_i positive
    split at h
    · rename_i zero
      cases h
      exact .arraySize opened (Bool.eq_false_iff.mpr positive) zero
    · cases h

theorem not_refuses (opened : connection.closed = false)
    (positive : options.pollInterval.isZero = false) (size : 1 ≤ options.arraySize)
    (cause : ProgrammingError) : ¬ connection.Refuses options cause := by
  intro refused
  cases refused with
  | closed closed =>
    rw [opened] at closed
    cases closed
  | pollInterval _ zero =>
    rw [positive] at zero
    cases zero
  | arraySize _ _ zero => omega

theorem Refuses.cursorWith {cause : ProgrammingError} (h : connection.Refuses options cause)
    (line : Line) :
    connection.cursorWith options line = (.error (.programming cause), connection, line) := by
  unfold Connection.cursorWith
  cases h with
  | closed closed => rw [if_pos closed]
  | pollInterval opened zero =>
    rw [if_neg (Bool.eq_false_iff.mp opened), CursorOptions.validate, if_pos zero]
  | arraySize opened positive zero =>
    rw [if_neg (Bool.eq_false_iff.mp opened), CursorOptions.validate,
      if_neg (Bool.eq_false_iff.mp positive), if_pos zero]
    rfl

theorem Action.exists_failed {params : ConnectionParams}
    (asks : action.options? params = some options) (error : Error) :
    ∃ answer, action.failed? error = some answer :=
  match action with
  | .cursor | .cursorWith _ | .execute _ | .query _ | .queryArrow _ | .executeUpdate _ => ⟨_, rfl⟩
  | .client | .close => nomatch asks

/-- An action whose cursor is not made answers why. -/
theorem act?_of_unmade {error : Error} (asks : action.options? connection.params = some options)
    (unmade : connection.cursorWith options line = (.error error, kept, after))
    (fails : action.failed? error = some answer) :
    connection.act? line action = some (answer, kept, after) := by
  have executed (sql : String) (same : standardOptions connection.params = options) :
      connection.execute? sql line = some (.error error, kept, after) := by
    rw [← same] at unmade
    rw [execute?, Connection.cursor, ← standardOptions, unmade]
  cases action with
  | client | close => cases asks
  | cursor =>
    cases asks
    cases fails
    exact congrArg (fun found => some (answered .cursor found)) unmade
  | cursorWith =>
    cases asks
    cases fails
    exact congrArg (fun found => some (answered .cursor found)) unmade
  | execute sql | query sql | queryArrow sql | executeUpdate sql =>
    cases fails
    rw [Connection.act?]
    simp only [query?, queryArrow?, executeUpdate?, answer?, executed sql (Option.some.inj asks),
      Option.map_some, Option.bind_some]
    rfl

theorem act?_of_refuses {cause : ProgrammingError}
    (asks : action.options? connection.params = some options)
    (grounds : connection.Refuses options cause) (line : Line) :
    ∃ answer, action.failed? (.programming cause) = some answer ∧
      connection.act? line action = some (answer, connection, line) := by
  obtain ⟨answer, fails⟩ := Action.exists_failed asks (.programming cause)
  exact ⟨answer, fails, act?_of_unmade asks (grounds.cursorWith line) fails⟩

theorem Obtains.params {result : Except ConnectionError Client}
    (h : Obtains provider connection line result calls kept after) :
    kept.params = connection.params := by
  cases h <;> rfl

theorem cursorWith_making {result : Except Error QueryCursor}
    (provided : line.service.credentials = some provider)
    (h : connection.cursorWith options line = (result, later, after)) :
    ∃ calls, Making provider connection options line result calls later after ∧
      after.attempts = line.attempts + attemptsIn calls := by
  unfold cursorWith at h
  split at h
  · rename_i closed
    cases h
    exact ⟨[], .refused (.closed closed), rfl⟩
  · rename_i opened
    have opened := Bool.eq_false_iff.mpr opened
    split at h
    · rename_i invalid
      cases h
      exact ⟨[], .refused (validate_eq_error opened invalid), rfl⟩
    · rename_i valid
      obtain ⟨positive, size⟩ := CursorOptions.validate_eq_ok valid
      have accepted := not_refuses opened positive size
      split at h
      all_goals
        rename_i obtained
        obtain ⟨calls, obtains, attempts⟩ := obtainClient_obtains provided obtained
        cases h
      · exact ⟨calls, .unprovided accepted obtains, attempts⟩
      · refine ⟨calls, ?_, attempts⟩
        rw [obtains.params]
        exact .made accepted obtains

theorem Action.options?_of_statement {params : ConnectionParams} {sql : String}
    (states : action.statement? = some sql) :
    action.options? params = some (standardOptions params) :=
  match action with
  | .execute _ | .query _ | .queryArrow _ | .executeUpdate _ => rfl
  | .client | .cursor | .cursorWith _ | .close => nomatch states

theorem Action.unprovided?_of_options {params : ConnectionParams} {cause : ConnectionError}
    (asks : action.options? params = some options) :
    action.unprovided? cause = action.failed? (.connection cause) := by
  cases action with
  | client => cases asks
  | _ => rfl

theorem accepts_of_options (asks : action.options? connection.params = some options)
    (accepted : ∀ cause, ¬ connection.Refuses options cause) : connection.Accepts action := by
  refine ⟨?_, ?_⟩
  · rintro rfl
    cases asks
  · intro other same
    rw [asks] at same
    cases same
    exact accepted

theorem Making.fails {error : Error}
    (h : Making provider connection options line (.error error) calls later after)
    (asks : action.options? connection.params = some options)
    (fails : action.failed? error = some answer) :
    Acts provider connection line action answer calls later after := by
  cases h with
  | refused grounds => exact .refused asks grounds fails
  | @unprovided cause _ _ _ accepted obtains =>
    rw [← Action.unprovided?_of_options asks] at fails
    exact .unprovided (accepts_of_options asks accepted) obtains fails

theorem Obtains.requests {result : Except ConnectionError Client}
    (h : Obtains provider connection line result calls kept after) :
    line.Reaches calls after ∧ (∀ timed ∈ calls, timed = connection.attempt line) ∧
      kept.closed = connection.closed := by
  cases h with
  | held => exact ⟨.refl _, nofun, rfl⟩
  | failed _ _ asked | granted _ _ asked =>
    exact ⟨asked, fun _ member => List.mem_singleton.mp member, rfl⟩

theorem Obtains.attemptsIn_eq_one {result : Except ConnectionError Client}
    (h : Obtains provider connection line result calls kept after)
    (missing : connection.client = none) : attemptsIn calls = 1 := by
  cases h with
  | held held =>
    rw [missing] at held
    cases held
  | failed | granted => rfl

theorem Obtains.of_failure {result : Except ConnectionError Client} {cause : ConnectionError}
    (h : Obtains provider connection line result calls kept after)
    (missing : connection.client = none)
    (failure : (provider line.attempts).result = .error cause) :
    result = .error cause ∧ kept = connection ∧ line.Reaches [connection.attempt line] after := by
  cases h with
  | held held =>
    rw [missing] at held
    cases held
  | failed _ other asked =>
    cases failure.symm.trans other
    exact ⟨rfl, rfl, asked⟩
  | granted _ granted =>
    rw [failure] at granted
    cases granted

/-- A failure of the provider is the answer, and leaves the connection as it was. -/
theorem act?_of_failure {cause : ConnectionError}
    (provided : line.service.credentials = some provider) (accepted : connection.Accepts action)
    (missing : connection.client = none)
    (failure : (provider line.attempts).result = .error cause) :
    ∃ answer after, action.unprovided? cause = some answer ∧
      connection.act? line action = some (answer, connection, after) ∧
      line.Reaches [connection.attempt line] after := by
  cases asks : action.options? connection.params with
  | none =>
    rcases obtained : connection.obtainClient line with ⟨result, kept, after⟩
    obtain ⟨calls, obtains, _⟩ := obtainClient_obtains provided obtained
    obtain ⟨rfl, rfl, asked⟩ := obtains.of_failure missing failure
    cases action with
    | client =>
      exact ⟨_, after, rfl, congrArg (fun found => some (answered .client found)) obtained, asked⟩
    | close => exact (accepted.1 rfl).elim
    | _ => cases asks
  | some options =>
    rcases made : connection.cursorWith options line with ⟨result, kept, after⟩
    obtain ⟨calls, making, _⟩ := cursorWith_making provided made
    cases making with
    | refused grounds => exact (accepted.2 options asks _ grounds).elim
    | unprovided _ obtains =>
      obtain ⟨same, rfl, asked⟩ := obtains.of_failure missing failure
      cases same
      obtain ⟨answer, fails⟩ := Action.exists_failed asks (.connection cause)
      exact ⟨answer, after, (Action.unprovided?_of_options asks).trans fails,
        act?_of_unmade asks made fails, asked⟩
    | made _ obtains => exact nomatch (obtains.of_failure missing failure).1

/-- Only the provider can keep an open connection from a cursor that waits between its polls. -/
theorem cursor_eq_error {error : Error} (provided : line.service.credentials = some provider)
    (opened : connection.closed = false) (positive : connection.params.pollInterval.isZero = false)
    (failed : connection.cursor line = (.error error, later, after)) :
    ∃ cause, error = .connection cause ∧ connection.client = none ∧
      (provider line.attempts).result = .error cause := by
  obtain ⟨calls, making, _⟩ := cursorWith_making provided failed
  cases making with
  | refused grounds =>
    exact (not_refuses opened positive (Nat.le_refl 1) _ grounds).elim
  | unprovided _ obtains =>
    cases obtains with
    | failed missing failure => exact ⟨_, rfl, missing, failure⟩

end RemoteQuery.Connection
