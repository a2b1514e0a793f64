import RemoteQuery.Proofs.Execution

/-!
# What holds of a cursor between two calls

The fields of a cursor are set one by one along the many paths of an execution, but between two
calls they always agree: what is known of the query, the state that is shown, and the result set
belong to one statement. The service may answer anything, and the line may be another at each call.
A cursor that has been closed stays closed, and there is nothing left that could change.
-/
namespace RemoteQuery

/-- The connection makes the cursor with some options. -/
def Connection.Makes (connection : Connection) (line : Line) (cursor : QueryCursor) : Prop :=
  ∃ options, (connection.cursorWith options line).1 = .ok cursor

theorem Connection.makes_cursor {connection : Connection} {line : Line} {cursor : QueryCursor}
    (h : (connection.cursor line).1 = .ok cursor) : connection.Makes line cursor :=
  ⟨_, h⟩

theorem CursorOptions.validate_eq_ok {options : CursorOptions} (h : options.validate = .ok ()) :
    options.pollInterval.isZero = false ∧ 1 ≤ options.arraySize := by
  unfold validate at h
  split at h
  · cases h
  · rename_i positive
    split at h
    · cases h
    · exact ⟨Bool.eq_false_iff.mpr positive, by omega⟩

theorem Connection.Makes.fresh {connection : Connection} {line : Line} {cursor : QueryCursor}
    (h : connection.Makes line cursor) :
    ∃ client options, CursorOptions.validate options = .ok () ∧
      cursor = { client, params := connection.params, options } := by
  obtain ⟨options, made⟩ := h
  unfold cursorWith at made
  split at made
  · cases made
  · split at made
    · cases made
    · rename_i valid
      split at made
      · cases made
      · rename_i client kept _ obtained
        cases made
        refine ⟨client, options, valid, ?_⟩
        have params : kept.params = connection.params := by
          unfold obtainClient at obtained
          split at obtained
          · cases obtained
            rfl
          · simp only at obtained
            split at obtained <;> cases obtained
            rfl
        rw [params]

namespace QueryCursor

/-- Actions lead from one cursor to the other, each on some line. -/
inductive Later (cursor : QueryCursor) : QueryCursor → Prop
  | refl : Later cursor cursor
  | act {current later : QueryCursor} {line after : Line} {action : Action} {answer : Answer}
      (earlier : Later cursor current)
      (acted : current.act? line action = some (answer, later, after)) : Later cursor later

/-- A connection has made the cursor, and actions may have followed. -/
def Reachable (cursor : QueryCursor) : Prop :=
  ∃ connection line fresh, Connection.Makes connection line fresh ∧ fresh.Later cursor

structure Consistent (cursor : QueryCursor) : Prop where
  settled : cursor.state ≠ .submitted
  submitted : cursor.queryId = none ↔ cursor.state = .idle
  nonempty : cursor.queryId ≠ some ""
  observed : cursor.execution.isSome → cursor.queryId.isSome
  result : ∀ set, cursor.resultSet = some set →
    cursor.state = .succeeded ∧ cursor.closed = false ∧ set.closed = false ∧
      cursor.queryId = some set.queryId
  ended : ∀ lifecycle, cursor.state.lifecycle? = some lifecycle →
    ∃ snapshot, cursor.execution = some snapshot ∧ snapshot.state = lifecycle
  timedOut : cursor.state = .timedOut →
    ∀ snapshot ∈ cursor.execution, snapshot.state = .queued ∨ snapshot.state = .running
  pending : cursor.state = .polling ∨ cursor.state = .idle → cursor.execution = none
  closed : cursor.closed = true → cursor.resultSet = none
  arraySize : 1 ≤ cursor.options.arraySize

/-- Statements and fetches, which need a cursor that is not closed. -/
def Action.needsOpen : Action → Bool
  | .execute _ => true
  | action => action.isFetch

/-- The cursor is closed, and neither a statement nor a fetch nor closing it again does anything. -/
structure Inert (cursor : QueryCursor) : Prop where
  closed : cursor.closed = true
  refuses : ∀ line action, action.needsOpen = true →
    cursor.act? line action = some (action.refused .cursorClosed, cursor, line)
  close : cursor.close = cursor

theorem consistent_setInterrupt {cursor : QueryCursor} (h : Consistent cursor)
    (signal : Option Signal) : Consistent (cursor.setInterrupt signal) :=
  ⟨h.settled, h.submitted, h.nonempty, h.observed, h.result, h.ended, h.timedOut, h.pending,
    h.closed, h.arraySize⟩

theorem consistent_detach {cursor : QueryCursor} (h : Consistent cursor) (line : Line) :
    Consistent (cursor.detach line) :=
  consistent_setInterrupt h line.interrupt

theorem consistent_close {cursor : QueryCursor} (h : Consistent cursor) :
    Consistent cursor.close :=
  { h with
    result := nofun
    closed := fun _ => rfl }

theorem consistent_fetched {cursor later : QueryCursor} {line after : Line} {action : Action}
    {answer : Answer} (h : Consistent cursor)
    (fetched : Fetched cursor line action answer later after) : Consistent later := by
  cases fetched with
  | closed | missing => exact h
  | served opened holds serves =>
    obtain ⟨succeeded, _, setOpened, queryId⟩ := h.result _ holds
    obtain ⟨_, yields, _, _⟩ := serves
    apply consistent_detach
    refine { h with result := ?_, closed := ?_ }
    · rintro _ ⟨⟩
      refine ⟨succeeded, opened, ?_, ?_⟩
      · rw [yields.closed, setOpened]
      · rw [yields.queryId]
        exact queryId
    · intro closed
      rw [show cursor.closed = true from closed] at opened
      cases opened

theorem consistent_reset {cursor : QueryCursor} (size : 1 ≤ cursor.options.arraySize) :
    Consistent cursor.reset where
  settled := nofun
  submitted := ⟨fun _ => rfl, fun _ => rfl⟩
  nonempty := nofun
  observed := nofun
  result := nofun
  ended := nofun
  timedOut := nofun
  pending := fun _ => rfl
  closed := fun _ => rfl
  arraySize := size

theorem consistent_observing {cursor : QueryCursor} {queryId : String} {state : CursorState}
    {execution : Option Snapshot} (size : 1 ≤ cursor.options.arraySize) (nonempty : queryId ≠ "")
    (settled : state ≠ .submitted) (left : state ≠ .idle)
    (ended : ∀ lifecycle, state.lifecycle? = some lifecycle →
      ∃ snapshot, execution = some snapshot ∧ snapshot.state = lifecycle)
    (timedOut : state = .timedOut → ∀ snapshot ∈ execution, snapshot.isTerminal = false)
    (pending : state = .polling → execution = none) :
    Consistent { cursor with
      state := state, queryId := some queryId, execution := execution, resultSet := none } where
  settled := settled
  submitted := ⟨nofun, fun idle => (left idle).elim⟩
  nonempty := fun same => nonempty (Option.some.inj same)
  observed := fun _ => rfl
  result := nofun
  ended := ended
  timedOut := by
    intro late snapshot member
    have running := timedOut late snapshot member
    unfold Snapshot.isTerminal at running
    cases found : snapshot.state with
    | queued => exact .inl rfl
    | running => exact .inr rfl
    | succeeded | failed | cancelled =>
      rw [found] at running
      cases running
  pending := fun early => early.elim pending fun idle => (left idle).elim
  closed := fun _ => rfl
  arraySize := size

theorem consistent_concluded {cursor later : QueryCursor} {queryId : String} {line after : Line}
    {outcome : PollOutcome} {result : Except Error Unit} {calls : List TimedCall}
    (size : 1 ≤ cursor.options.arraySize) (opened : cursor.closed = false) (nonempty : queryId ≠ "")
    (pending : ∀ last, outcome = .timedOut last →
      ∀ snapshot ∈ last, snapshot.isTerminal = false)
    (h : Concluded (cursor.reset.polling queryId) queryId line outcome result later calls after) :
    Consistent later := by
  cases h with
  | @unsuccessful snapshot state ended =>
    refine consistent_observing size nonempty ?_ ?_ ?_ ?_ ?_
    · rintro rfl
      cases ended
    · rintro rfl
      cases ended
    · intro lifecycle found
      rw [ended] at found
      exact ⟨snapshot, rfl, Option.some.inj found⟩
    · rintro rfl
      cases ended
    · rintro rfl
      cases ended
  | unopened succeeded =>
    refine consistent_observing size nonempty nofun nofun ?_ nofun nofun
    rintro _ ⟨⟩
    exact ⟨_, rfl, succeeded⟩
  | opened succeeded =>
    have observing : Consistent { cursor with
        state := .succeeded, queryId := some queryId, execution := some _, resultSet := none } :=
      consistent_observing size nonempty nofun nofun (by
        rintro _ ⟨⟩
        exact ⟨_, rfl, succeeded⟩) nofun nofun
    refine { observing with result := ?_, closed := ?_ }
    · rintro _ ⟨⟩
      exact ⟨rfl, opened, rfl, rfl⟩
    · intro closed
      rw [show cursor.closed = true from closed] at opened
      cases opened
  | timedOut =>
    refine consistent_observing size nonempty nofun nofun nofun (fun _ => pending _ rfl) nofun
  | interrupted => exact consistent_observing size nonempty nofun nofun nofun nofun nofun

theorem consistent_executed {cursor later : QueryCursor} {sql : String} {line after : Line}
    {result : Except Error Unit} {calls : List TimedCall} (size : 1 ≤ cursor.options.arraySize)
    (opened : cursor.closed = false)
    (h : Executed cursor.reset sql line result later calls after) : Consistent later := by
  cases h with
  | unsubmitted => exact consistent_reset size
  | unpolled submits =>
    exact consistent_observing size submits.nonempty nofun nofun nofun nofun fun _ => rfl
  | concluded submits _ concludes _ concluded =>
    refine consistent_concluded size opened submits.nonempty ?_ concluded
    rintro last rfl
    cases concludes with
    | timedOut _ pending => exact pending

theorem Consistent.acts {cursor later : QueryCursor} {line after : Line} {action : Action}
    {answer : Answer} (h : Consistent cursor)
    (acted : cursor.act? line action = some (answer, later, after)) :
    Acts cursor line action answer later after :=
  act?_acts (fun set holds => (h.result set holds).2.2.1) acted

theorem consistent_act {cursor later : QueryCursor} {line after : Line} {action : Action}
    {answer : Answer} (h : Consistent cursor)
    (acted : cursor.act? line action = some (answer, later, after)) : Consistent later := by
  cases h.acts acted with
  | refused | unheld | passed | unsized => exact h
  | executed opened _ _ executed =>
    exact consistent_detach (consistent_executed h.arraySize opened executed) _
  | fetched _ fetched => exact consistent_fetched h fetched
  | cancelled => exact consistent_detach h _
  | closed => exact consistent_close h
  | signalled | fired => exact consistent_setInterrupt h _
  | sized positive => exact { h with arraySize := positive }

theorem consistent_fresh {connection : Connection} {line : Line} {cursor : QueryCursor}
    (h : connection.Makes line cursor) : Consistent cursor := by
  obtain ⟨client, options, valid, rfl⟩ := h.fresh
  let fresh : QueryCursor := { client, params := connection.params, options }
  exact @consistent_reset fresh (CursorOptions.validate_eq_ok valid).2

theorem Later.consistent {cursor later : QueryCursor} (h : cursor.Later later)
    (consistent : Consistent cursor) : Consistent later := by
  induction h with
  | refl => exact consistent
  | act _ acted ih => exact consistent_act ih acted

theorem overruns_of_closed {cursor : QueryCursor} (closed : cursor.closed = true) (line : Line) :
    cursor.overruns line = false := by
  unfold overruns
  repeat' split
  all_goals simp [closed]

theorem act?_closed {cursor : QueryCursor} {action : Action} (closed : cursor.closed = true)
    (needs : action.needsOpen = true) (line : Line) :
    cursor.act? line action = some (action.refused .cursorClosed, cursor, line) := by
  cases action with
  | execute sql => simp [act?, execute?, refusal?, closed, answered, Action.refused]
  | fetchOne | fetchMany _ | fetchBatch | fetchAll =>
    simp [act?, fetchOne, fetchMany, fetchBatch, fetchAll, withResultSet, closed, answered,
      Action.refused]
  | fetchArrow =>
    simp [act?, fetchArrow?, overruns_of_closed closed, withResultSet, closed, answered,
      Action.refused]
  | _ => cases needs

theorem closed_act {cursor later : QueryCursor} {line after : Line} {action : Action}
    {answer : Answer} (h : Consistent cursor) (closed : cursor.closed = true)
    (acted : cursor.act? line action = some (answer, later, after)) : later.closed = true := by
  cases h.acts acted with
  | closed => rfl
  | executed opened =>
    rw [closed] at opened
    cases opened
  | fetched _ fetched =>
    cases fetched with
    | closed | missing => exact closed
    | served opened =>
      rw [closed] at opened
      cases opened
  | refused | unheld | cancelled | signalled | fired | passed | sized | unsized => exact closed

theorem Consistent.inert {cursor : QueryCursor} (h : Consistent cursor)
    (closed : cursor.closed = true) : Inert cursor where
  closed := closed
  refuses := fun line _ needs => act?_closed closed needs line
  close := by
    have empty := h.closed closed
    cases cursor
    cases closed
    cases empty
    rfl

theorem Later.inert {cursor later : QueryCursor} (h : cursor.Later later)
    (consistent : Consistent cursor) (closed : cursor.closed = true) : Inert later := by
  have after : Consistent later ∧ later.closed = true := by
    induction h with
    | refl => exact ⟨consistent, closed⟩
    | act _ acted ih => exact ⟨consistent_act ih.1 acted, closed_act ih.1 ih.2 acted⟩
  exact after.1.inert after.2

/-- Between two calls a cursor is consistent, and a closed cursor is inert from then on. -/
theorem reachable_consistent {cursor : QueryCursor} (h : Reachable cursor) :
    Consistent cursor ∧
      (cursor.closed = true → ∀ later, cursor.Later later → Inert later) := by
  obtain ⟨connection, line, fresh, makes, steps⟩ := h
  have consistent := steps.consistent (consistent_fresh makes)
  refine ⟨consistent, ?_⟩
  intro closed later onward
  exact onward.inert consistent closed

theorem openedCursor_close_inert :
    Reachable openedCursor.close ∧ Consistent openedCursor.close ∧ Inert openedCursor.close := by
  have executed : plainCursor.act? promptLine (.execute "SELECT n") =
      some (.done (.ok ()), openedCursor, openedLine) :=
    congrArg (Option.map (answered .done)) plainCursor_execute
  have closed : openedCursor.act? openedLine .close =
      some (.done (.ok ()), openedCursor.close, openedLine) := rfl
  have reachable : Reachable openedCursor.close :=
    ⟨plainConnection, promptLine, plainCursor, Connection.makes_cursor rfl,
      .act (.act .refl executed) closed⟩
  obtain ⟨consistent, inert⟩ := reachable_consistent reachable
  exact ⟨reachable, consistent, inert rfl _ .refl⟩

end QueryCursor

end RemoteQuery
