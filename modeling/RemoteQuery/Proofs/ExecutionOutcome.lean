import RemoteQuery.Proofs.ExecutionEnding

/-!
# The outcome of an execution

A statement is refused on the first ground there is, and then nothing is called and nothing changes.
Any other statement drops what an earlier one has left, whatever comes of it; what it leaves in its
place is told by the answers to its submission, to its last poll and to its first page request. A
timeout or an interrupt is reported only when it is due; which of several things that are due comes
first is not said here.
-/
namespace RemoteQuery

namespace QueryCursor

theorem executed_ending {cursor later : QueryCursor} {sql : String} {line after : Line}
    {result : Except Error Unit} {calls : List TimedCall}
    (h : Executed cursor.reset sql line result later calls after) :
    Ending cursor sql line calls after result later := by
  cases h with
  | unsubmitted failure => exact .unsubmitted failure ⟨_, _, rfl⟩
  | @unpolled _ _ start polls _ _ submits _ concludes ran =>
    have unasked : countOf .getQueryResults (polls ++ start) = 0 := by
      rw [countOf_append, concludes.unasked, submits.countOf_eq_zero (by decide)]
    cases concludes with
    | failed only reports =>
      exact .unpolled (submits.polled ran) (submits.lastPoll only reports) unasked
  | @concluded queryId outcome _ _ start polls more middle polled _ submits reaches concludes onward
      concluded ran =>
    have unasked : countOf .getQueryResults (polls ++ start) = 0 := by
      rw [countOf_append, concludes.unasked, submits.countOf_eq_zero (by decide)]
    have upTo : line.Reaches (polls ++ start) polled := submits.reaches.trans reaches
    cases concluded with
    | timedOut => exact .timedOut (submits.polled ran) (submits.polled ran).due unasked
    | interrupted => exact .interrupted (submits.polled ran) (submits.polled ran).due unasked
    | unsuccessful ended unsuccessful =>
      cases concludes with
      | terminal only _ reports =>
        exact .unsuccessful (submits.polled ran) (submits.lastPoll only reports)
          (CursorState.unsuccessful_of_lifecycle? ended unsuccessful) unasked
    | unopened succeeded failure _ asks =>
      cases concludes with
      | terminal only _ reports =>
        exact .unopened (submits.polled ran)
          ((submits.lastPoll only reports).append (asks.countOf_eq_zero (by decide))) succeeded
          (firstPage_cons upTo unasked asks failure)
    | opened succeeded _ asks answer =>
      cases concludes with
      | terminal only _ reports =>
        exact .opened (submits.polled ran)
          ((submits.lastPoll only reports).append (asks.countOf_eq_zero (by decide))) succeeded
          (firstPage_cons upTo unasked asks answer)

theorem Ending.not_programming {cursor left : QueryCursor} {sql : String} {line after : Line}
    {calls : List TimedCall} {cause : ProgrammingError} :
    ¬ Ending cursor sql line calls after (.error (.programming cause)) left := by
  intro h
  cases h with
  | unsubmitted failure => exact failure.ofAnswer
  | unpolled _ last =>
    obtain ⟨_, _, answer⟩ := last
    exact Polling.snapshotOf_error answer
  | unopened _ _ _ first => exact ResultSet.pageOf_error first.2

theorem Ending.ok_iff {cursor left : QueryCursor} {sql : String} {line after : Line}
    {calls : List TimedCall} {result : Except Error Unit}
    (h : Ending cursor sql line calls after result left) :
    result = .ok () ↔
      (∃ queryId snapshot, submittedId? line.service line.started = some queryId ∧
        LastPoll line queryId calls (.ok snapshot) ∧ snapshot.state = .succeeded) ∧
      ∃ page, FirstPage line calls (.ok page) := by
  constructor
  · rintro rfl
    cases h with
    | opened polled last succeeded first =>
      exact ⟨⟨_, _, polled.answered, last, succeeded⟩, _, first⟩
  · rintro ⟨_, page, asked, answer⟩
    cases h with
    | opened => rfl
    | unopened _ _ _ first =>
      rw [first.2] at answer
      cases answer
    | unsubmitted _ only =>
      obtain ⟨_, _, rfl⟩ := only
      cases asked
    | unpolled _ _ unasked | unsuccessful _ _ _ unasked | timedOut _ _ unasked
    | interrupted _ _ unasked =>
      rw [unasked] at asked
      cases asked

/-- The only executions without a result are those whose deadline the clock does not reach and those
whose polling is lost. -/
theorem run?_eq_none_iff {cursor : QueryCursor} {sql : String} {line : Line} :
    cursor.run? sql line = none ↔
      ∃ queryId, submittedId? line.service line.started = some queryId ∧ queryId ≠ "" ∧
        (line.clock.limit ≤ line.now + (line.service.start line.started).delay +
          cursor.params.timeout.ticks ∨
          Polling.Lost (submit cursor.params sql line).2 queryId cursor.policy) := by
  have now := submit_now cursor.params sql line
  unfold run?
  generalize submitted : submit cursor.params sql line = answer at now
  obtain ⟨answer, middle⟩ := answer
  obtain ⟨_, _, reaches, ⟨error, rfl, failure⟩ | ⟨queryId, rfl, nonempty, answered⟩⟩ :=
    submit_cases submitted
  · constructor
    · exact nofun
    · rintro ⟨queryId, answered, nonempty, _⟩
      cases failure with
      | refused refused =>
        rw [submittedId?, refused] at answered
        cases answered
      | unidentified unidentified =>
        rw [unidentified] at answered
        cases answered
        exact (nonempty rfl).elim
  · simp only [Option.map_eq_none_iff, Polling.pollUntilTerminal?_eq_none_iff]
    rw [← now, ← reaches.clock]
    constructor
    · intro none
      exact ⟨queryId, answered, nonempty, none⟩
    · rintro ⟨other, answeredToo, _, none⟩
      cases answered.symm.trans answeredToo
      exact none

theorem execute?_of_accepted {cursor : QueryCursor} {sql : String} {line : Line}
    (accepted : cursor.refusal? sql line.now = none) :
    cursor.execute? sql line = cursor.perform? sql line := by
  rw [execute?, accepted]

/-- A statement is refused just on the first ground there is, and the cursor and the line are as
before. Otherwise what comes of it does not depend on what an earlier statement has left; unless the
clock ends before the timeout does or polling is lost it has a result, and ends accordingly. -/
theorem execute?_outcome (cursor : QueryCursor) (sql : String) (line : Line) :
    (∀ cause later after,
      cursor.execute? sql line = some (.error (.programming cause), later, after) ↔
        cursor.Refuses sql line.now cause ∧ later = cursor ∧ after = line) ∧
    ((∀ cause, ¬ cursor.Refuses sql line.now cause) →
      (∀ state queryId execution resultSet,
        (cursor.leaving state queryId execution resultSet).execute? sql line =
          cursor.execute? sql line) ∧
      (cursor.execute? sql line = none ↔
        ∃ queryId, submittedId? line.service line.started = some queryId ∧ queryId ≠ "" ∧
          (line.clock.limit ≤ line.now + (line.service.start line.started).delay +
            cursor.params.timeout.ticks ∨
            Polling.Lost (submit cursor.params sql (cursor.attach line)).2 queryId
              cursor.policy)) ∧
      ∀ result later after, cursor.execute? sql line = some (result, later, after) →
        ∃ calls left, after.calls = calls ++ line.calls ∧ later = left.detach after ∧
          Ending cursor sql (cursor.attach line) calls after result left ∧
          (result = .ok () ↔
            (∃ queryId snapshot, submittedId? line.service line.started = some queryId ∧
              LastPoll line queryId calls (.ok snapshot) ∧ snapshot.state = .succeeded) ∧
            ∃ page, FirstPage line calls (.ok page))) := by
  constructor
  · intro cause later after
    constructor
    · intro ran
      obtain ⟨_, refused, same, rfl, rfl⟩ | ⟨_, _, _, _, _, _, executed⟩ := execute?_cases ran
      · cases same
        exact ⟨refusal?_eq_some_iff.mp refused, rfl, rfl⟩
      · exact (executed_ending executed).not_programming.elim
    · rintro ⟨refuses, rfl, rfl⟩
      rw [execute?, refusal?_eq_some_iff.mpr refuses]
  · intro unrefused
    have accepted := refusal?_eq_none_iff.mpr unrefused
    refine ⟨?_, ?_, ?_⟩
    · intro state queryId execution resultSet
      rw [execute?_of_accepted accepted]
      exact execute?_of_accepted accepted
    · rw [execute?_of_accepted accepted, perform?, Option.map_eq_none_iff]
      exact run?_eq_none_iff
    · intro result later after ran
      obtain ⟨cause, refused, _⟩ | ⟨_, _, left, calls, rfl, reaches, executed⟩ :=
        execute?_cases ran
      · rw [accepted] at refused
        cases refused
      · have ending := executed_ending executed
        exact ⟨calls, left, reaches.noted, rfl, ending, ending.ok_iff⟩

theorem execute?_outcome_prompt :
    (∀ cause, ¬ plainCursor.Refuses "SELECT n" promptLine.now cause) ∧
    (∃ calls left, openedLine.calls = calls ++ promptLine.calls ∧
      openedCursor = left.detach openedLine ∧
      Ending plainCursor "SELECT n" (plainCursor.attach promptLine) calls openedLine (.ok ()) left ∧
      ∃ page, FirstPage promptLine calls (.ok page)) ∧
    openedCursor.Refuses " " openedLine.now .emptyQuery ∧
    openedCursor.execute? " " openedLine =
      some (.error (.programming .emptyQuery), openedCursor, openedLine) := by
  have unrefused : ∀ cause, ¬ plainCursor.Refuses "SELECT n" promptLine.now cause :=
    refusal?_eq_none_iff.mp rfl
  have empty : openedCursor.Refuses " " openedLine.now .emptyQuery := .empty rfl rfl
  obtain ⟨_, accepted⟩ := execute?_outcome plainCursor "SELECT n" promptLine
  obtain ⟨_, _, ends⟩ := accepted unrefused
  obtain ⟨calls, left, noted, same, ending, succeeds⟩ := ends _ _ _ plainCursor_execute
  obtain ⟨refused, _⟩ := execute?_outcome openedCursor " " openedLine
  exact ⟨unrefused, ⟨calls, left, noted, same, ending, (succeeds.mp rfl).2⟩, empty,
    (refused _ _ _).mpr ⟨empty, rfl, rfl⟩⟩

end QueryCursor

end RemoteQuery
