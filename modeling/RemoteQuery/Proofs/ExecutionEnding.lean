import RemoteQuery.Proofs.Execution
import RemoteQuery.Proofs.GivingUp
import RemoteQuery.Proofs.LostPolls

/-!
# The ends of an execution

A statement is refused on the first ground there is. What an execution that is not refused ends with
is told by the answers to its submission, to its last poll and to its first page request; a timeout
or an interrupt ends it only when it is due.
-/
namespace RemoteQuery

theorem Text.trimmed_eq_empty_iff {text : String} :
    trimmed text = "" ↔ isBlankText text = true := by
  rw [isBlankText, List.isEmpty_iff, trimmed]
  exact String.ofList_eq_empty_iff

theorem Line.Reaches.nextPage {before after : Line} {calls : List TimedCall}
    (h : before.Reaches calls after) (unasked : countOf .getQueryResults calls = 0) :
    after.nextPage = before.nextPage := by
  rw [Line.nextPage, Line.nextPage, h.pages, unasked, List.drop_zero, exhausted, exhausted,
    h.service]

/-- The last of the polls among the calls was answered so. -/
def LastPoll (line : Line) (queryId : String) (calls : List TimedCall)
    (answer : Except Error Snapshot) : Prop :=
  ∃ index, countOf .getQueryExecution calls = index + 1 ∧
    Polling.snapshotOf queryId (line.service.execution (line.polled + index) queryId).result =
      answer

/-- One page was asked for, and this was the answer. -/
def FirstPage (line : Line) (calls : List TimedCall) (answer : Except Error ResultPage) : Prop :=
  countOf .getQueryResults calls = 1 ∧ ResultSet.pageOf line.nextPage.result = answer

theorem Polling.Reports.lastPoll {line : Line} {queryId : String} {answer : Except Error Snapshot}
    {polls start : List TimedCall} (only : OnlyPolls queryId polls)
    (unpolled : countOf .getQueryExecution start = 0)
    (h : Reports (serviceReplies line.service queryId) line.polled answer polls) :
    LastPoll line queryId (polls ++ start) answer := by
  cases polls with
  | nil => exact h.elim
  | cons timed earlier =>
    obtain ⟨asked, reply, call, found, answer⟩ := h
    have about := only timed List.mem_cons_self
    rw [call] at about
    cases about
    cases found
    refine ⟨countOf .getQueryExecution earlier, ?_, answer⟩
    rw [countOf_append, unpolled, countOf_cons, call]
    rfl

theorem LastPoll.append {line : Line} {queryId : String} {calls more : List TimedCall}
    {answer : Except Error Snapshot} (h : LastPoll line queryId calls answer)
    (unpolled : countOf .getQueryExecution more = 0) :
    LastPoll line queryId (more ++ calls) answer := by
  obtain ⟨index, count, answer⟩ := h
  exact ⟨index, by rw [countOf_append, unpolled, count, Nat.zero_add], answer⟩

theorem Polling.Concludes.unasked {line : Line} {queryId : String} {policy : PollPolicy}
    {result : Except Error PollOutcome} {calls : List TimedCall}
    (h : Concludes line queryId policy result calls) :
    countOf .getQueryResults calls = 0 := by
  cases h with
  | terminal polls | failed polls | left polls => exact polls.countOf_eq_zero (by decide)
  | timedOut polls | unstopped polls =>
    rw [countOf_cons, polls.countOf_eq_zero (by decide)]
    rfl
  | stopped polls =>
    rw [countOf_cons, countOf_cons, polls.countOf_eq_zero (by decide)]
    rfl

theorem CursorState.unsuccessful_of_lifecycle? {state : CursorState} {lifecycle : Lifecycle}
    (ended : state.lifecycle? = some lifecycle) (unsuccessful : lifecycle ≠ .succeeded) :
    lifecycle = .failed ∧ state = .failed ∨ lifecycle = .cancelled ∧ state = .cancelled := by
  cases state with
  | failed =>
    cases ended
    exact .inl ⟨rfl, rfl⟩
  | cancelled =>
    cases ended
    exact .inr ⟨rfl, rfl⟩
  | succeeded =>
    cases ended
    exact (unsuccessful rfl).elim
  | idle | submitted | polling | timedOut | interrupted => cases ended

namespace QueryCursor

/-- The grounds on which a statement is refused. Each counts only if those before it do not. -/
inductive Refuses (cursor : QueryCursor) (sql : String) (now : Nat) : ProgrammingError → Prop
  | closed (closed : cursor.closed = true) : Refuses cursor sql now .cursorClosed
  | empty (opened : cursor.closed = false) (empty : Text.trimmed sql = "") :
      Refuses cursor sql now .emptyQuery
  | fired {signal : Signal} (opened : cursor.closed = false) (worded : Text.trimmed sql ≠ "")
      (held : cursor.options.interrupt = some signal) (fired : signal.firedBy now = true) :
      Refuses cursor sql now .interruptFired

theorem refusal?_eq_some_iff {cursor : QueryCursor} {sql : String} {now : Nat}
    {cause : ProgrammingError} :
    cursor.refusal? sql now = some cause ↔ cursor.Refuses sql now cause := by
  constructor
  · intro h
    unfold refusal? at h
    split at h
    · rename_i closed
      cases h
      exact .closed closed
    · rename_i opened
      split at h
      · rename_i blank
        cases h
        exact .empty (by simpa using opened) (Text.trimmed_eq_empty_iff.mpr blank)
      · rename_i worded
        split at h
        · rename_i signal held
          split at h
          · rename_i fired
            cases h
            exact .fired (by simpa using opened) (mt Text.trimmed_eq_empty_iff.mp worded) held fired
          · cases h
        · cases h
  · intro h
    cases h with
    | closed closed => rw [refusal?, if_pos closed]
    | empty opened empty =>
      rw [refusal?, opened, if_neg (by decide), if_pos (Text.trimmed_eq_empty_iff.mp empty)]
    | fired opened worded held fired =>
      rw [refusal?, opened, if_neg (by decide), if_neg (mt Text.trimmed_eq_empty_iff.mpr worded),
        held]
      exact if_pos fired

theorem refusal?_eq_none_iff {cursor : QueryCursor} {sql : String} {now : Nat} :
    cursor.refusal? sql now = none ↔ ∀ cause, ¬ cursor.Refuses sql now cause := by
  simp only [← refusal?_eq_some_iff, Option.eq_none_iff_forall_ne_some, ne_eq]

/-- What an execution leaves in the cursor; all else is as it was. -/
def leaving (cursor : QueryCursor) (state : CursorState) (queryId : Option String)
    (execution : Option Snapshot) (resultSet : Option ResultSet) : QueryCursor :=
  { cursor with state, queryId, execution, resultSet }

/-- The statement is submitted under the identifier, and this comes of polling for it. -/
structure Polled (cursor : QueryCursor) (sql : String) (line : Line) (queryId : String)
    (result : Except Error PollOutcome) (after : Line) : Prop where
  answered : submittedId? line.service line.started = some queryId
  nonempty : queryId ≠ ""
  ran : Polling.pollUntilTerminal? (submit cursor.params sql line).2 queryId cursor.policy =
    some (result, after)

/-- How a statement that is not refused ends, by the answers to its calls. -/
inductive Ending (cursor : QueryCursor) (sql : String) (line : Line) (calls : List TimedCall)
    (after : Line) : Except Error Unit → QueryCursor → Prop
  | unsubmitted {error : Error} (failure : Unsubmitted line.service line.started error)
      (only : ∃ instant token,
        calls = [⟨instant, .startQuery (request cursor.params sql token)⟩]) :
      Ending cursor sql line calls after (.error error) (cursor.leaving .idle none none none)
  | unpolled {queryId : String} {error : Error}
      (polled : Polled cursor sql line queryId (.error error) after)
      (last : LastPoll line queryId calls (.error error))
      (unasked : countOf .getQueryResults calls = 0) :
      Ending cursor sql line calls after (.error error)
        (cursor.leaving .polling (some queryId) none none)
  | unsuccessful {queryId : String} {state : CursorState} {snapshot : Snapshot}
      (polled : Polled cursor sql line queryId (.ok (.terminal snapshot)) after)
      (last : LastPoll line queryId calls (.ok snapshot))
      (ended : snapshot.state = .failed ∧ state = .failed ∨
        snapshot.state = .cancelled ∧ state = .cancelled)
      (unasked : countOf .getQueryResults calls = 0) :
      Ending cursor sql line calls after
        (.error (.operational (.queryFailed queryId snapshot.state snapshot.reason)))
        (cursor.leaving state (some queryId) (some snapshot) none)
  | unopened {queryId : String} {snapshot : Snapshot} {error : Error} {reached : Line}
      (polled : Polled cursor sql line queryId (.ok (.terminal snapshot)) reached)
      (last : LastPoll line queryId calls (.ok snapshot))
      (succeeded : snapshot.state = .succeeded) (first : FirstPage line calls (.error error)) :
      Ending cursor sql line calls after (.error error)
        (cursor.leaving .succeeded (some queryId) (some snapshot) none)
  | opened {queryId : String} {snapshot : Snapshot} {page : ResultPage} {reached : Line}
      (polled : Polled cursor sql line queryId (.ok (.terminal snapshot)) reached)
      (last : LastPoll line queryId calls (.ok snapshot))
      (succeeded : snapshot.state = .succeeded) (first : FirstPage line calls (.ok page)) :
      Ending cursor sql line calls after (.ok ())
        (cursor.leaving .succeeded (some queryId) (some snapshot)
          (some (.ofFirstPage queryId (ResultSet.clampPageSize cursor.options.pageSize) page)))
  | timedOut {queryId : String} {last : Option Snapshot}
      (polled : Polled cursor sql line queryId (.ok (.timedOut last)) after)
      (late : line.now + (line.service.start line.started).delay + cursor.params.timeout.ticks ≤
        after.now)
      (unasked : countOf .getQueryResults calls = 0) :
      Ending cursor sql line calls after
        (.error (.operational (.timedOut queryId cursor.params.timeout.wholeSeconds)))
        (cursor.leaving .timedOut (some queryId) last none)
  | interrupted {queryId : String} {state : Option Snapshot}
      (polled : Polled cursor sql line queryId (.ok (.interrupted state)) after)
      (fired : after.interruptedBy after.now = true)
      (unasked : countOf .getQueryResults calls = 0) :
      Ending cursor sql line calls after
        (.error (.operational (.interrupted queryId (state.map Snapshot.state))))
        (cursor.leaving .interrupted (some queryId) state none)

theorem submit_now (params : ConnectionParams) (sql : String) (line : Line) :
    (submit params sql line).2.now = line.now + (line.service.start line.started).delay := by
  unfold submit
  simp only
  have now := show
    (line.startQuery (request params sql (line.service.requestToken line.started))).2.now =
      line.now + (line.service.start line.started).delay from rfl
  generalize line.startQuery _ = asked at now ⊢
  obtain ⟨source | response, reached⟩ := asked
  · exact now
  · simp only
    split <;> exact now

theorem Submits.polled {cursor : QueryCursor} {sql queryId : String} {line middle after : Line}
    {start : List TimedCall} {result : Except Error PollOutcome}
    (h : Submits cursor.reset sql line queryId start middle)
    (ran : Polling.pollUntilTerminal? middle queryId cursor.policy = some (result, after)) :
    Polled cursor sql line queryId result after := by
  have submitted : submit cursor.params sql line = (.ok queryId, middle) := h.submitted
  refine ⟨h.answered, h.nonempty, ?_⟩
  rw [submitted]
  exact ran

theorem Polled.due {cursor : QueryCursor} {sql queryId : String} {line after : Line}
    {outcome : PollOutcome} (h : Polled cursor sql line queryId (.ok outcome) after) :
    outcome.Due (line.now + (line.service.start line.started).delay + cursor.params.timeout.ticks)
      after := by
  rw [← submit_now cursor.params sql line]
  exact Polling.pollUntilTerminal?_due h.ran

theorem Submits.lastPoll {cursor : QueryCursor} {sql queryId : String} {line middle : Line}
    {start polls : List TimedCall} {answer : Except Error Snapshot}
    (h : Submits cursor sql line queryId start middle) (only : Polling.OnlyPolls queryId polls)
    (reports : Polling.Reports (Polling.serviceReplies middle.service queryId) middle.polled
      answer polls) : LastPoll line queryId (polls ++ start) answer := by
  have unpolled : countOf .getQueryExecution start = 0 := h.countOf_eq_zero (by decide)
  rw [h.reaches.service, h.reaches.polled, unpolled, Nat.add_zero] at reports
  exact reports.lastPoll only unpolled

theorem firstPage_cons {line polled : Line} {queryId : String} {calls : List TimedCall}
    {call : TimedCall} {answer : Except Error ResultPage} (reaches : line.Reaches calls polled)
    (unasked : countOf .getQueryResults calls = 0) (asks : OnlyPageRequests queryId [call])
    (answered : ResultSet.pageOf polled.nextPage.result = answer) :
    FirstPage line ([call] ++ calls) answer := by
  constructor
  · rw [countOf_append, asks.countOf_eq_length, unasked]
    rfl
  · -- no page was asked for before, so that the reply is the first one of the line
    rwa [reaches.nextPage unasked] at answered

end QueryCursor

end RemoteQuery
