import RemoteQuery.Proofs.SubmittedQuery

/-!
# The paths of an execution

A statement that is not refused is submitted, polled, and concluded. Each path through that is one
constructor below, with the calls it makes and the cursor it leaves behind.
-/
namespace RemoteQuery

namespace QueryCursor

/-- How an execution ends once polling has: the results are opened if the query has succeeded. -/
inductive Concluded (cursor : QueryCursor) (queryId : String) (line : Line) :
    PollOutcome → Except Error Unit → QueryCursor → List TimedCall → Line → Prop
  | unsuccessful {snapshot : Snapshot} {state : CursorState}
      (ended : state.lifecycle? = some snapshot.state)
      (unsuccessful : snapshot.state ≠ .succeeded) :
      Concluded cursor queryId line (.terminal snapshot)
        (.error (.operational (.queryFailed queryId snapshot.state snapshot.reason)))
        { cursor with state := state, execution := some snapshot } [] line
  | unopened {snapshot : Snapshot} {error : Error} {call : TimedCall} {after : Line}
      (succeeded : snapshot.state = .succeeded)
      (failure : ResultSet.pageOf line.nextPage.result = .error error)
      (reaches : line.Reaches [call] after) (asks : OnlyPageRequests queryId [call]) :
      Concluded cursor queryId line (.terminal snapshot) (.error error)
        { cursor with state := .succeeded, execution := some snapshot } [call] after
  | opened {snapshot : Snapshot} {page : ResultPage} {call : TimedCall} {after : Line}
      (succeeded : snapshot.state = .succeeded) (reaches : line.Reaches [call] after)
      (asks : OnlyPageRequests queryId [call])
      (answer : ResultSet.pageOf line.nextPage.result = .ok page) :
      Concluded cursor queryId line (.terminal snapshot) (.ok ())
        { cursor with
          state := .succeeded, execution := some snapshot
          resultSet := some
            (.ofFirstPage queryId (ResultSet.clampPageSize cursor.options.pageSize) page) }
        [call] after
  | timedOut {last : Option Snapshot} :
      Concluded cursor queryId line (.timedOut last)
        (.error (.operational (.timedOut queryId cursor.params.timeout.wholeSeconds)))
        { cursor with state := .timedOut, execution := last } [] line
  | interrupted {state : Option Snapshot} :
      Concluded cursor queryId line (.interrupted state)
        (.error (.operational (.interrupted queryId (state.map Snapshot.state))))
        { cursor with state := .interrupted, execution := state } [] line

theorem finish_concluded {cursor later : QueryCursor} {queryId : String} {snapshot : Snapshot}
    {line after : Line} {result : Except Error Unit} (nonempty : queryId ≠ "")
    (terminal : snapshot.isTerminal = true)
    (h : cursor.finish queryId snapshot line = (result, later, after)) :
    ∃ calls, line.Reaches calls after ∧
      Concluded cursor queryId line (.terminal snapshot) result later calls after := by
  unfold finish at h
  split at h
  · rename_i succeeded
    simp only at h
    generalize opening : ResultSet.openFor line queryId cursor.options.pageSize = opened at h
    obtain ⟨opened, reached⟩ := opened
    obtain ⟨call, reaches, asks, ⟨error, rfl, failure⟩ | ⟨page, rfl, answer⟩⟩ :=
      openFor_cases nonempty opening
    · cases h
      exact ⟨_, reaches, .unopened succeeded failure reaches asks⟩
    · cases h
      exact ⟨_, reaches, .opened succeeded reaches asks answer⟩
  · rename_i failed
    cases h
    exact ⟨_, .refl _, .unsuccessful (by rw [failed]; rfl) (by rw [failed]; exact nofun)⟩
  · rename_i cancelled
    cases h
    exact ⟨_, .refl _, .unsuccessful (by rw [cancelled]; rfl) (by rw [cancelled]; exact nofun)⟩
  · rename_i queued
    rw [Snapshot.isTerminal, queued] at terminal
    cases terminal
  · rename_i running
    rw [Snapshot.isTerminal, running] at terminal
    cases terminal

/-- The paths of an execution that is not refused, from a cursor that has been reset. The calls are
given latest first. -/
inductive Executed (cursor : QueryCursor) (sql : String) (line : Line) :
    Except Error Unit → QueryCursor → List TimedCall → Line → Prop
  | unsubmitted {error : Error} {instant : Nat} {token : String} {after : Line}
      (failure : Unsubmitted line.service line.started error)
      (reaches : line.Reaches [⟨instant, .startQuery (request cursor.params sql token)⟩] after) :
      Executed cursor sql line (.error error) cursor
        [⟨instant, .startQuery (request cursor.params sql token)⟩] after
  | unpolled {queryId : String} {error : Error} {start polls : List TimedCall}
      {middle after : Line} (submits : Submits cursor sql line queryId start middle)
      (reaches : middle.Reaches polls after)
      (concludes : Polling.Concludes middle queryId cursor.policy (.error error) polls)
      (ran : Polling.pollUntilTerminal? middle queryId cursor.policy =
        some (.error error, after)) :
      Executed cursor sql line (.error error) (cursor.polling queryId) (polls ++ start) after
  | concluded {queryId : String} {outcome : PollOutcome} {result : Except Error Unit}
      {later : QueryCursor} {start polls more : List TimedCall} {middle polled after : Line}
      (submits : Submits cursor sql line queryId start middle)
      (reaches : middle.Reaches polls polled)
      (concludes : Polling.Concludes middle queryId cursor.policy (.ok outcome) polls)
      (onward : polled.Reaches more after)
      (concluded : Concluded (cursor.polling queryId) queryId polled outcome result later more
        after)
      (ran : Polling.pollUntilTerminal? middle queryId cursor.policy =
        some (.ok outcome, polled)) :
      Executed cursor sql line result later (more ++ (polls ++ start)) after

theorem conclude_concluded {cursor later : QueryCursor} {queryId : String} {policy : PollPolicy}
    {outcome : PollOutcome} {middle line after : Line} {result : Except Error Unit}
    {polls : List TimedCall} (nonempty : queryId ≠ "")
    (concludes : Polling.Concludes middle queryId policy (.ok outcome) polls)
    (h : cursor.conclude queryId line outcome = (result, later, after)) :
    ∃ calls, line.Reaches calls after ∧
      Concluded cursor queryId line outcome result later calls after := by
  cases concludes with
  | terminal _ terminal _ => exact finish_concluded nonempty terminal h
  | timedOut =>
    cases h
    exact ⟨_, .refl _, .timedOut⟩
  | left | unstopped | stopped =>
    cases h
    exact ⟨_, .refl _, .interrupted⟩

theorem run?_executed {cursor later : QueryCursor} {sql : String} {line after : Line}
    {result : Except Error Unit} (h : cursor.run? sql line = some (result, later, after)) :
    ∃ calls, line.Reaches calls after ∧ Executed cursor sql line result later calls after := by
  unfold run? at h
  generalize submitted : submit cursor.params sql line = answer at h
  obtain ⟨answer, middle⟩ := answer
  obtain ⟨instant, token, started, ⟨error, rfl, failure⟩ | ⟨queryId, rfl, nonempty, answered⟩⟩ :=
    submit_cases submitted
  · cases h
    exact ⟨_, started, .unsubmitted failure started⟩
  · have submits : Submits cursor sql line queryId _ middle :=
      ⟨started, ⟨instant, token, rfl⟩, answered, nonempty, submitted⟩
    obtain ⟨⟨polled, reached⟩, ran, ended⟩ := Option.map_eq_some_iff.mp h
    obtain ⟨deadline, _, loop⟩ := Option.bind_eq_some_iff.mp ran
    obtain ⟨polls, reaches, concludes⟩ := Polling.pollUntil?_concludes loop
    cases polled with
    | error error =>
      cases ended
      exact ⟨_, started.trans reaches, .unpolled submits reaches concludes ran⟩
    | ok outcome =>
      obtain ⟨more, onward, concluded⟩ := conclude_concluded nonempty concludes ended
      exact ⟨_, (started.trans reaches).trans onward,
        .concluded submits reaches concludes onward concluded ran⟩

theorem execute?_cases {cursor later : QueryCursor} {sql : String} {line after : Line}
    {result : Except Error Unit} (h : cursor.execute? sql line = some (result, later, after)) :
    (∃ cause, cursor.refusal? sql line.now = some cause ∧ result = .error (.programming cause) ∧
      later = cursor ∧ after = line) ∨
    (cursor.closed = false ∧ cursor.refusal? sql line.now = none ∧
      ∃ reached calls, later = reached.detach after ∧ line.Reaches calls after ∧
        Executed cursor.reset sql (cursor.attach line) result reached calls after) := by
  unfold execute? at h
  split at h
  · rename_i cause refused
    cases h
    exact .inl ⟨cause, refused, rfl, rfl, rfl⟩
  · rename_i accepted
    right
    obtain ⟨⟨ended, reached, last⟩, ran, same⟩ := Option.map_eq_some_iff.mp h
    cases same
    obtain ⟨calls, reaches, executed⟩ := run?_executed ran
    refine ⟨?_, accepted, reached, calls, rfl, reaches_attach.mp reaches, executed⟩
    cases closed : cursor.closed with
    | false => rfl
    | true =>
      rw [refusal?, if_pos closed] at accepted
      cases accepted

/-- All that one action can do to a cursor and the line. -/
inductive Acts (cursor : QueryCursor) (line : Line) : Action → Answer → QueryCursor → Line → Prop
  | refused {sql : String} {cause : ProgrammingError}
      (refused : cursor.refusal? sql line.now = some cause) :
      Acts cursor line (.execute sql) (.done (.error (.programming cause))) cursor line
  | executed {sql : String} {result : Except Error Unit} {reached : QueryCursor}
      {calls : List TimedCall} {after : Line} (opened : cursor.closed = false)
      (accepted : cursor.refusal? sql line.now = none) (reaches : line.Reaches calls after)
      (executed : Executed cursor.reset sql (cursor.attach line) result reached calls after) :
      Acts cursor line (.execute sql) (.done result) (reached.detach after) after
  | fetched {action : Action} {answer : Answer} {later : QueryCursor} {after : Line}
      (fetch : action.isFetch = true) (fetched : Fetched cursor line action answer later after) :
      Acts cursor line action answer later after
  | unheld (none : cursor.queryId = none) :
      Acts cursor line .cancel (.done (.error (.programming .missingQueryId))) cursor line
  | cancelled {queryId : String} {result : Except Error Unit} {instant : Nat} {after : Line}
      (held : cursor.queryId = some queryId)
      (reaches : line.Reaches [⟨instant, .stopQuery queryId⟩] after) :
      Acts cursor line .cancel (.done result) (cursor.detach after) after
  | closed : Acts cursor line .close (.done (.ok ())) cursor.close line
  | signalled {signal : Option Signal} :
      Acts cursor line (.setInterrupt signal) (.done (.ok ())) (cursor.setInterrupt signal) line
  | fired : Acts cursor line .fire (.done (.ok ())) (cursor.fireAt line.now) line
  | passed {ticks : Nat} : Acts cursor line (.pass ticks) (.done (.ok ())) cursor (line.wait ticks)
  | sized {size : Nat} (positive : 1 ≤ size) :
      Acts cursor line (.setArraySize size) (.done (.ok ()))
        { cursor with options := { cursor.options with arraySize := size } } line
  | unsized :
      Acts cursor line (.setArraySize 0)
        (.done (.error (.programming CursorOptions.zeroArraySize))) cursor line

theorem cancel_acts {cursor later : QueryCursor} {line after : Line} {result : Except Error Unit}
    (h : cursor.cancel line = (result, later, after)) :
    Acts cursor line .cancel (.done result) later after := by
  unfold cancel at h
  cases held : cursor.queryId with
  | none =>
    rw [held] at h
    cases h
    exact .unheld held
  | some queryId =>
    simp only [held] at h
    have reaches := reaches_attach.mp ((cursor.attach line).reaches_stopQuery queryId)
    generalize (cursor.attach line).stopQuery queryId = stopped at h reaches
    obtain ⟨_ | _, reached⟩ := stopped
    · cases h
      exact .cancelled held reaches
    · cases h
      exact .cancelled held reaches

theorem act?_acts {cursor later : QueryCursor} {line after : Line} {action : Action}
    {answer : Answer} (sound : ∀ set, cursor.resultSet = some set → set.closed = false)
    (h : cursor.act? line action = some (answer, later, after)) :
    Acts cursor line action answer later after := by
  cases action with
  | execute sql =>
    obtain ⟨⟨result, reached, last⟩, ran, same⟩ := Option.map_eq_some_iff.mp h
    cases same
    obtain ⟨cause, refused, rfl, rfl, rfl⟩ | ⟨opened, accepted, _, _, rfl, reaches, executed⟩ :=
      execute?_cases ran
    · exact .refused refused
    · exact .executed opened accepted reaches executed
  | fetchOne | fetchMany _ | fetchBatch | fetchAll | fetchArrow =>
    exact .fetched rfl (act?_fetched rfl sound h)
  | cancel =>
    have cancelled := Option.some.inj h
    generalize ended : cursor.cancel line = found at cancelled
    obtain ⟨result, reached, last⟩ := found
    cases cancelled
    exact cancel_acts ended
  | close =>
    cases h
    exact .closed
  | setInterrupt signal =>
    cases h
    exact .signalled
  | setArraySize size =>
    simp only [act?, setArraySize] at h
    by_cases none : size = 0
    · subst none
      cases h
      exact .unsized
    · rw [if_neg none] at h
      cases h
      exact .sized (by omega)
  | fire =>
    cases h
    exact .fired
  | pass ticks =>
    cases h
    exact .passed

end QueryCursor

end RemoteQuery
