import RemoteQuery.Proofs.CallAttempts

/-!
# Who asks the provider

Only a connection asks the provider for a client. Whatever is done on a cursor, none of its calls
assumes a role, and the replies of the provider are left for the connection.
-/
namespace RemoteQuery

namespace QueryCursor

theorem attempts_attach (cursor : QueryCursor) (line : Line) :
    (cursor.attach line).attempts = line.attempts := rfl

theorem attempts_arrowOf {set last : ResultSet} {line after : Line}
    {result : Except Error Columnar.Batch} (h : arrowOf set line = (result, last, after)) :
    after.attempts = line.attempts := by
  unfold arrowOf at h
  split at h
  · rename_i came
    cases h
    exact ResultSet.attempts_fetch came
  · rename_i came
    split at h
    all_goals
      cases h
      exact ResultSet.attempts_fetch came

theorem attempts_submit {params : ConnectionParams} {sql : String} {line after : Line}
    {result : Except Error String} (h : submit params sql line = (result, after)) :
    after.attempts = line.attempts := by
  have asked : (line.startQuery (request params sql
      (line.service.requestToken line.started))).2.attempts = line.attempts := rfl
  unfold submit at h
  simp only at h
  split at h
  all_goals
    rename_i answered
    rw [answered] at asked
  · cases h
    exact asked
  · split at h
    all_goals
      cases h
      exact asked

theorem attempts_finish {cursor later : QueryCursor} {queryId : String} {snapshot : Snapshot}
    {line after : Line} {result : Except Error Unit}
    (h : cursor.finish queryId snapshot line = (result, later, after)) :
    after.attempts = line.attempts := by
  unfold finish at h
  split at h
  · simp only at h
    split at h
    all_goals
      rename_i came
      cases h
      exact ResultSet.attempts_openFor came
  all_goals
    cases h
    rfl

theorem attempts_run? {cursor later : QueryCursor} {sql : String} {line after : Line}
    {result : Except Error Unit} (h : cursor.run? sql line = some (result, later, after)) :
    after.attempts = line.attempts := by
  unfold run? at h
  split at h
  · rename_i submitted
    cases h
    exact attempts_submit submitted
  · rename_i submitted
    obtain ⟨⟨outcome, polled⟩, ended, concluded⟩ := Option.map_eq_some_iff.mp h
    have kept := (Polling.attempts_pollUntilTerminal? ended).trans (attempts_submit submitted)
    match outcome with
    | .error error =>
      cases concluded
      exact kept
    | .ok (.terminal snapshot) => exact (attempts_finish concluded).trans kept
    | .ok (.timedOut last) =>
      cases concluded
      exact kept
    | .ok (.interrupted state) =>
      cases concluded
      exact kept

theorem attempts_execute? {cursor later : QueryCursor} {sql : String} {line after : Line}
    {result : Except Error Unit} (h : cursor.execute? sql line = some (result, later, after)) :
    after.attempts = line.attempts := by
  unfold execute? at h
  split at h
  · cases h
    rfl
  · obtain ⟨⟨_, reached, _⟩, ran, rest⟩ := Option.map_eq_some_iff.mp h
    cases rest
    exact (attempts_run? ran).trans (attempts_attach cursor line)

theorem attempts_withResultSet {α : Type} {form : Except Error α → Answer}
    {fetch : ResultSet → Line → Except Error α × ResultSet × Line} {cursor later : QueryCursor}
    {line after : Line} {answer : Answer}
    (fetches : ∀ {set last : ResultSet} {now reached : Line} {result : Except Error α},
      fetch set now = (result, last, reached) → reached.attempts = now.attempts)
    (h : answered form (cursor.withResultSet line fetch) = (answer, later, after)) :
    after.attempts = line.attempts := by
  unfold withResultSet at h
  split at h
  · cases h
    rfl
  · split at h
    · cases h
      rfl
    · rename_i set _
      generalize fetched : fetch set (cursor.attach line) = found at h
      obtain ⟨result, last, reached⟩ := found
      cases h
      exact (fetches fetched).trans (attempts_attach cursor line)

theorem attempts_cancel {cursor later : QueryCursor} {line after : Line}
    {result : Except Error Unit} (h : cursor.cancel line = (result, later, after)) :
    after.attempts = line.attempts := by
  unfold cancel at h
  split at h
  · cases h
    rfl
  · rename_i queryId _
    have stopped : ((cursor.attach line).stopQuery queryId).2.attempts = line.attempts := rfl
    split at h
    all_goals
      rename_i answered
      rw [answered] at stopped
      cases h
      exact stopped

/-- Whatever is done on a cursor leaves the replies of the provider to others. -/
theorem attempts_act? {cursor later : QueryCursor} {line after : Line} {action : Action}
    {answer : Answer} (h : cursor.act? line action = some (answer, later, after)) :
    after.attempts = line.attempts := by
  cases action with
  | execute sql =>
    obtain ⟨⟨_, _, _⟩, executed, rest⟩ := Option.map_eq_some_iff.mp h
    cases rest
    exact attempts_execute? executed
  | fetchOne => exact attempts_withResultSet ResultSet.attempts_fetchOne (Option.some.inj h)
  | fetchMany | fetchBatch | fetchAll =>
    exact attempts_withResultSet ResultSet.attempts_fetch (Option.some.inj h)
  | fetchArrow => exact attempts_withResultSet attempts_arrowOf (act?_fetchArrow h)
  | cancel =>
    unfold act? at h
    generalize cancelled : cursor.cancel line = found at h
    obtain ⟨_, _, _⟩ := found
    cases h
    exact attempts_cancel cancelled
  | setArraySize size =>
    simp only [act?] at h
    split at h
    all_goals
      cases h
      rfl
  | close | setInterrupt _ | fire | pass _ =>
    cases h
    rfl

/-- What is done on a cursor asks for no client. -/
theorem act?_quiet {cursor later : QueryCursor} {line after : Line} {action : Action}
    {answer : Answer} (consistent : Consistent cursor)
    (acted : cursor.act? line action = some (answer, later, after)) :
    ∃ calls, line.Reaches calls after ∧ attemptsIn calls = 0 ∧
      after.attempts = line.attempts := by
  obtain ⟨calls, reaches, _, sends⟩ := acts_complies consistent (consistent.acts acted)
  exact ⟨calls, reaches, sends.attemptsIn_eq_zero, attempts_act? acted⟩

/-- A cursor keeps its client. -/
theorem client_act {cursor later : QueryCursor} {line after : Line} {action : Action}
    {answer : Answer} (consistent : Consistent cursor)
    (acted : cursor.act? line action = some (answer, later, after)) :
    later.client = cursor.client := by
  cases consistent.acts acted with
  | executed _ _ _ executed =>
    cases executed with
    | unsubmitted | unpolled => rfl
    | concluded _ _ _ _ concluded => cases concluded <;> rfl
  | fetched _ fetched => cases fetched <;> rfl
  | _ => rfl

end QueryCursor

end RemoteQuery
