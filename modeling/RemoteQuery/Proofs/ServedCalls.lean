import RemoteQuery.Proofs.ClientAttempts

/-!
# Calls that are served

With the client at hand a call works on a cursor of its own: it executes its statement, if it has
one, and lets the cursor answer. None of this asks the provider again, so that every call does one
of four things: it closes, is refused, has no client, or is served.
-/
namespace RemoteQuery.Connection

variable {provider : Nat → Reply ConnectionError Client} {connection kept later : Connection}
  {line after : Line} {action : Action} {answer : Answer} {options : CursorOptions}
  {calls : List TimedCall}

theorem arraySize_of_accepted (accepted : ∀ cause, ¬ connection.Refuses options cause) :
    1 ≤ options.arraySize := by
  apply Nat.one_le_iff_ne_zero.mpr
  intro zero
  cases opened : connection.closed with
  | true => exact accepted _ (.closed opened)
  | false =>
    cases positive : options.pollInterval.isZero with
    | true => exact accepted _ (.pollInterval opened positive)
    | false => exact accepted _ (.arraySize opened positive zero)

theorem consistent_made {params : ConnectionParams} {client : Client}
    (size : 1 ≤ options.arraySize) : (fresh params client options).Consistent :=
  @QueryCursor.consistent_reset (fresh params client options) size

theorem consistent_standard (params : ConnectionParams) (client : Client) :
    (fresh params client (standardOptions params)).Consistent :=
  consistent_made (Nat.le_refl 1)

section Statements

variable {sql : String}

/-- The statement has been executed on a cursor that was made for it. -/
structure Executes (provider : Nat → Reply ConnectionError Client) (connection : Connection)
    (line : Line) (sql : String) (cursor : QueryCursor) (client : Client)
    (first more : List TimedCall) (kept : Connection) (reached after : Line) : Prop where
  obtains : Obtains provider connection line (.ok client) first kept reached
  onward : reached.Reaches more after
  quiet : attemptsIn more = 0
  executed : (fresh connection.params client (standardOptions connection.params)).act? reached
    (.execute sql) = some (.done (.ok ()), cursor, after)

theorem Executes.consistent {cursor : QueryCursor} {client : Client} {first more : List TimedCall}
    {kept : Connection} {reached : Line}
    (h : Executes provider connection line sql cursor client first more kept reached after) :
    cursor.Consistent :=
  QueryCursor.consistent_act (consistent_standard _ _) h.executed

theorem execute?_acts (action : Action) {result : Except Error QueryCursor}
    (provided : line.service.credentials = some provider) (states : action.statement? = some sql)
    (h : connection.execute? sql line = some (result, later, after)) :
    (∃ error calls, result = .error error ∧
      (∀ answer, action.failed? error = some answer →
        Acts provider connection line action answer calls later after) ∧
      after.attempts = line.attempts + attemptsIn calls) ∨
    ∃ cursor client first more reached, result = .ok cursor ∧ connection.Accepts action ∧
      Executes provider connection line sql cursor client first more later reached after ∧
      after.attempts = line.attempts + attemptsIn first := by
  have asks : action.options? connection.params = some (standardOptions connection.params) :=
    Action.options?_of_statement states
  unfold execute? at h
  split at h
  · rename_i made
    cases h
    obtain ⟨calls, making, attempts⟩ := cursorWith_making provided made
    exact .inl ⟨_, calls, rfl, fun _ fails => making.fails asks fails, attempts⟩
  · rename_i reached made
    obtain ⟨calls, making, attempts⟩ := cursorWith_making provided made
    obtain ⟨⟨outcome, executed, last⟩, ran, rest⟩ := Option.map_eq_some_iff.mp h
    cases making with
    | @made client _ _ _ unrefused obtains =>
      have accepted := accepts_of_options asks unrefused
      have acted : (fresh connection.params client (standardOptions connection.params)).act? reached
          (.execute sql) = some (.done outcome, executed, last) :=
        congrArg (Option.map (QueryCursor.answered .done)) ran
      obtain ⟨more, onward, quiet, same⟩ := QueryCursor.act?_quiet (consistent_standard _ _) acted
      cases outcome with
      | error error =>
        cases rest
        refine .inl ⟨error, more ++ calls, rfl, fun answer fails => ?_, ?_⟩
        · exact .served accepted obtains onward quiet (.unexecuted states acted fails)
        · rw [attemptsIn_append, quiet, Nat.zero_add, same, attempts]
      | ok _ =>
        cases rest
        exact .inr ⟨executed, client, calls, more, reached, rfl, accepted,
          ⟨obtains, onward, quiet, acted⟩, same.trans attempts⟩

/-- The cursor on which a statement was executed answers, and is dropped. -/
theorem answer?_acts (action : Action) {α : Type} {form : Except Error α → Answer}
    {fetch? : QueryCursor → Line → Option (Except Error α × QueryCursor × Line)}
    {result : Except Error α}
    (provided : line.service.credentials = some provider) (states : action.statement? = some sql)
    (fails : ∀ error, action.failed? error = some (form (.error error)))
    (fetches : ∀ {cursor client first more reached middle last found},
      Executes provider connection line sql cursor client first more later reached middle →
      fetch? cursor middle = some (result, found, last) →
      ∃ calls, middle.Reaches calls last ∧ attemptsIn calls = 0 ∧
        last.attempts = middle.attempts ∧
        Serves connection.params client reached action (form result) last)
    (h : connection.answer? sql line fetch? = some (result, later, after)) :
    ∃ calls, Acts provider connection line action (form result) calls later after ∧
      after.attempts = line.attempts + attemptsIn calls := by
  obtain ⟨⟨executed, kept, middle⟩, ran, rest⟩ := Option.bind_eq_some_iff.mp h
  rcases execute?_acts action provided states ran with
    ⟨error, calls, rfl, acts, attempts⟩ |
      ⟨cursor, client, first, more, reached, rfl, accepted, executes, attempts⟩
  · cases rest
    exact ⟨calls, acts _ (fails error), attempts⟩
  · obtain ⟨⟨_, _, last⟩, fetched, same⟩ := Option.map_eq_some_iff.mp rest
    cases same
    obtain ⟨calls, onward, quiet, same, serves⟩ := fetches executes fetched
    have silent : attemptsIn (calls ++ more) = 0 := by
      rw [attemptsIn_append, quiet, executes.quiet]
    refine ⟨(calls ++ more) ++ first, ?_, ?_⟩
    · exact .served accepted executes.obtains (executes.onward.trans onward) silent serves
    · rw [attemptsIn_append, silent, Nat.zero_add, same, attempts]

end Statements

theorem cursorWith_acts {result : Except Error QueryCursor}
    (provided : line.service.credentials = some provider)
    (asks : action.options? connection.params = some options)
    (fails : ∀ error, action.failed? error = some (.cursor (.error error)))
    (serves : ∀ client reached, Serves connection.params client reached action
      (.cursor (.ok (fresh connection.params client options))) reached)
    (h : connection.cursorWith options line = (result, later, after)) :
    ∃ calls, Acts provider connection line action (.cursor result) calls later after ∧
      after.attempts = line.attempts + attemptsIn calls := by
  obtain ⟨calls, making, attempts⟩ := cursorWith_making provided h
  refine ⟨calls, ?_, attempts⟩
  cases result with
  | error error => exact making.fails asks (fails error)
  | ok cursor =>
    cases making with
    | made accepted obtains =>
      exact .served (accepts_of_options asks accepted) obtains (.refl _) rfl (serves _ _)

/-- Every call does one of the four things. -/
theorem act?_acts (provided : line.service.credentials = some provider)
    (acted : connection.act? line action = some (answer, later, after)) :
    ∃ calls, Acts provider connection line action answer calls later after ∧
      after.attempts = line.attempts + attemptsIn calls := by
  cases action with
  | client =>
    obtain ⟨result, came, rfl⟩ := answered_eq_some (some (connection.obtainClient line)) acted
    obtain ⟨calls, obtains, attempts⟩ := obtainClient_obtains provided (Option.some.inj came)
    have accepted : connection.Accepts .client := ⟨nofun, nofun⟩
    refine ⟨calls, ?_, attempts⟩
    cases result with
    | error cause => exact .unprovided accepted obtains rfl
    | ok client => exact .served accepted obtains (.refl _) rfl .client
  | cursor =>
    obtain ⟨result, came, rfl⟩ := answered_eq_some (some (connection.cursor line)) acted
    exact cursorWith_acts provided rfl (fun _ => rfl) (fun _ _ => .cursor) (Option.some.inj came)
  | cursorWith options =>
    obtain ⟨result, came, rfl⟩ :=
      answered_eq_some (some (connection.cursorWith options line)) acted
    exact cursorWith_acts provided rfl (fun _ => rfl) (fun _ _ => .cursorWith)
      (Option.some.inj came)
  | execute sql =>
    obtain ⟨result, executed, rfl⟩ := answered_eq_some (connection.execute? sql line) acted
    rcases execute?_acts (.execute sql) provided rfl executed with
      ⟨error, calls, rfl, acts, attempts⟩ |
        ⟨cursor, client, first, more, reached, rfl, accepted, executes, attempts⟩
    · exact ⟨calls, acts _ rfl, attempts⟩
    · refine ⟨more ++ first, ?_, ?_⟩
      · exact .served accepted executes.obtains executes.onward executes.quiet
          (.executed executes.executed)
      · rw [attemptsIn_append, executes.quiet, Nat.zero_add, attempts]
  | query sql =>
    obtain ⟨result, queried, rfl⟩ := answered_eq_some (connection.query? sql line) acted
    refine answer?_acts (.query sql) provided rfl (fun _ => rfl) ?_ queried
    intro cursor _ _ _ _ middle last _ executes came
    have fetched : cursor.act? middle .fetchAll = some (.rows result, _, last) :=
      congrArg (Option.map (QueryCursor.answered .rows)) came
    obtain ⟨calls, onward, quiet, same⟩ := QueryCursor.act?_quiet executes.consistent fetched
    exact ⟨calls, onward, quiet, same, .queried executes.executed fetched⟩
  | queryArrow sql =>
    obtain ⟨result, queried, rfl⟩ := answered_eq_some (connection.queryArrow? sql line) acted
    refine answer?_acts (.queryArrow sql) provided rfl (fun _ => rfl) ?_ queried
    intro cursor _ _ _ _ middle last _ executes came
    have fetched : cursor.act? middle .fetchArrow = some (.batch result, _, last) :=
      congrArg (Option.map (QueryCursor.answered .batch)) came
    obtain ⟨calls, onward, quiet, same⟩ := QueryCursor.act?_quiet executes.consistent fetched
    exact ⟨calls, onward, quiet, same, .queriedArrow executes.executed fetched⟩
  | executeUpdate sql =>
    obtain ⟨result, updated, rfl⟩ := answered_eq_some (connection.executeUpdate? sql line) acted
    refine answer?_acts (.executeUpdate sql) provided rfl (fun _ => rfl) ?_ updated
    intro cursor _ _ _ _ middle last _ executes came
    cases came
    exact ⟨[], .refl _, rfl, rfl, .updated executes.executed⟩
  | close =>
    cases acted
    exact ⟨[], .closed, rfl⟩

end RemoteQuery.Connection
