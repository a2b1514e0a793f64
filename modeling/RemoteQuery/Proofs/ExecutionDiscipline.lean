import RemoteQuery.Proofs.Attribution
import RemoteQuery.Proofs.StopAnswer

/-!
# Which calls an execution makes

An execution submits its statement once. A page is asked for only once the service has said that
the query succeeded, and the query is stopped once, and only if it is given up; the calls about it
carry its identifier.
-/
namespace RemoteQuery

namespace QueryCursor

def TimedOut (result : Except Error Unit) : Prop :=
  ∃ queryId seconds, result = .error (.operational (.timedOut queryId seconds))

def Interrupted (result : Except Error Unit) : Prop :=
  ∃ queryId state, result = .error (.operational (.interrupted queryId state))

/-- The statement is given up in a way that stops its query. -/
def GivesUp (cursor : QueryCursor) (result : Except Error Unit) : Prop :=
  TimedOut result ∨ Interrupted result ∧ cursor.options.cancelOnInterrupt = true

theorem not_givesUp_ok (cursor : QueryCursor) : ¬ cursor.GivesUp (.ok ()) := by
  rintro (⟨_, _, same⟩ | ⟨⟨_, _, same⟩, _⟩) <;> cases same

theorem not_givesUp_of_answer {cursor : QueryCursor} {error : Error} (failure : error.OfAnswer) :
    ¬ cursor.GivesUp (.error error) := by
  rintro (⟨_, _, same⟩ | ⟨⟨_, _, same⟩, _⟩)
  · cases same
    exact failure
  · cases same
    exact failure

/-- Among the calls there is a poll to which the service answered that the query has succeeded.
Earlier polls on the line used up the first replies. -/
def SucceededIn (service : Service) (polled : Nat) : List TimedCall → Prop
  | [] => False
  | timed :: earlier =>
    SucceededIn service polled earlier ∨
      ∃ queryId snapshot, timed.call = .getQueryExecution queryId ∧
        Polling.snapshotOf queryId (service.execution
          (polled + countOf .getQueryExecution earlier) queryId).result = .ok snapshot ∧
        snapshot.state = .succeeded

/-- The calls that one execution makes on a line. -/
structure Disciplined (cursor : QueryCursor) (line : Line) (result : Except Error Unit)
    (calls : List TimedCall) : Prop where
  pages : ∀ later timed earlier, calls = later ++ timed :: earlier →
    timed.call.operation? = some .getQueryResults → SucceededIn line.service line.polled earlier
  single : countOf .stopQuery calls ≤ 1
  stops : countOf .stopQuery calls = 1 ↔ cursor.GivesUp result
  afterwards : ∀ later timed earlier, calls = later ++ timed :: earlier →
    timed.call.operation? = some .stopQuery →
    later = [] ∨
      ∃ instant queryId, later = [⟨instant, .getQueryExecution queryId⟩] ∧ Interrupted result ∧
        (line.service.stop line.stopped).result = .ok ()

theorem disciplined_quiet {cursor : QueryCursor} {line : Line} {result : Except Error Unit}
    {calls : List TimedCall} (noStops : countOf .stopQuery calls = 0)
    (goesOn : ¬ cursor.GivesUp result)
    (pages : ∀ later timed earlier, calls = later ++ timed :: earlier →
      timed.call.operation? = some .getQueryResults →
      SucceededIn line.service line.polled earlier) :
    Disciplined cursor line result calls where
  pages := pages
  single := by omega
  stops := by
    constructor
    · intro one
      omega
    · intro givesUp
      exact (goesOn givesUp).elim
  afterwards := fun _ _ _ split call => (ne_split_of_countOf_eq_zero noStops call split).elim

theorem disciplined_stop {cursor : QueryCursor} {line : Line} {result : Except Error Unit}
    {instant : Nat} {queryId : String} {calls : List TimedCall} (looks : List TimedCall)
    (noPages : countOf .getQueryResults calls = 0) (noStops : countOf .stopQuery calls = 0)
    (givesUp : cursor.GivesUp result)
    (looked : looks = [] ∨ ∃ instant queryId, looks = [⟨instant, .getQueryExecution queryId⟩] ∧
      Interrupted result ∧ (line.service.stop line.stopped).result = .ok ()) :
    Disciplined cursor line result (looks ++ ⟨instant, .stopQuery queryId⟩ :: calls) := by
  have only : countOf .getQueryResults looks = 0 ∧ countOf .stopQuery looks = 0 := by
    obtain rfl | ⟨_, _, rfl, _⟩ := looked <;> exact ⟨rfl, rfl⟩
  have one : countOf .stopQuery (looks ++ ⟨instant, .stopQuery queryId⟩ :: calls) = 1 := by
    rw [countOf_append, countOf_cons, only.2, noStops]
    rfl
  have none : countOf .getQueryResults (looks ++ ⟨instant, .stopQuery queryId⟩ :: calls) = 0 := by
    rw [countOf_append, countOf_cons, only.1, noPages]
    rfl
  constructor
  · intro later timed earlier split asks
    exact (ne_split_of_countOf_eq_zero none asks split).elim
  · omega
  · exact ⟨fun _ => givesUp, fun _ => one⟩
  · intro later timed earlier split asks
    obtain ⟨rfl, _⟩ := split_unique only.2 noStops asks split
    exact looked

theorem disciplined_polls {cursor : QueryCursor} {sql queryId : String} {line middle : Line}
    {result : Except Error Unit} {start polls : List TimedCall}
    (submits : Submits cursor sql line queryId start middle)
    (only : Polling.OnlyPolls queryId polls) (goesOn : ¬ cursor.GivesUp result) :
    Disciplined cursor line result (polls ++ start) := by
  refine disciplined_quiet (submits.countOf_polls only (by decide) (by decide)) goesOn ?_
  intro later timed earlier split asks
  have none : countOf .getQueryResults (polls ++ start) = 0 :=
    submits.countOf_polls only (by decide) (by decide)
  exact (ne_split_of_countOf_eq_zero none asks split).elim

theorem succeededIn_of_reports {cursor : QueryCursor} {sql queryId : String}
    {line middle : Line} {start polls : List TimedCall} {snapshot : Snapshot}
    (submits : Submits cursor sql line queryId start middle)
    (only : Polling.OnlyPolls queryId polls)
    (reports : Polling.Reports (Polling.serviceReplies middle.service queryId) middle.polled
      (.ok snapshot) polls) (succeeded : snapshot.state = .succeeded) :
    SucceededIn line.service line.polled (polls ++ start) := by
  cases polls with
  | nil => exact reports.elim
  | cons timed earlier =>
    obtain ⟨_, reply, call, found, answer⟩ := reports
    have asked := only timed List.mem_cons_self
    rw [call] at asked
    cases asked
    cases found
    have polled := submits.reaches.polled
    rw [submits.countOf_eq_zero (by decide), Nat.add_zero] at polled
    refine .inr ⟨queryId, snapshot, call, ?_, succeeded⟩
    change Polling.snapshotOf queryId (line.service.execution
      (line.polled + countOf .getQueryExecution (earlier ++ start)) queryId).result = .ok snapshot
    rw [countOf_append, submits.countOf_eq_zero (by decide), Nat.add_zero, ← polled,
      ← submits.reaches.service]
    exact answer

theorem disciplined_page {cursor : QueryCursor} {sql queryId : String} {line middle : Line}
    {result : Except Error Unit} {start polls : List TimedCall} {page : TimedCall}
    {snapshot : Snapshot} (submits : Submits cursor sql line queryId start middle)
    (only : Polling.OnlyPolls queryId polls)
    (reports : Polling.Reports (Polling.serviceReplies middle.service queryId) middle.polled
      (.ok snapshot) polls) (succeeded : snapshot.state = .succeeded)
    (asks : OnlyPageRequests queryId [page]) (goesOn : ¬ cursor.GivesUp result) :
    Disciplined cursor line result (page :: (polls ++ start)) := by
  have noStops : countOf .stopQuery ([page] ++ (polls ++ start)) = 0 := by
    rw [countOf_append, asks.countOf_eq_zero (by decide),
      submits.countOf_polls only (by decide) (by decide)]
  refine disciplined_quiet noStops goesOn ?_
  intro later timed earlier split call
  have noPages : countOf .getQueryResults (polls ++ start) = 0 :=
    submits.countOf_polls only (by decide) (by decide)
  obtain ⟨_, rfl⟩ := @split_unique _ _ _ [] _ _ _ rfl noPages call split
  exact succeededIn_of_reports submits only reports succeeded

theorem concluded_disciplined {cursor later : QueryCursor} {sql queryId : String}
    {line middle polled after : Line} {outcome : PollOutcome} {result : Except Error Unit}
    {start polls more : List TimedCall} (submits : Submits cursor sql line queryId start middle)
    (concludes : Polling.Concludes middle queryId cursor.policy (.ok outcome) polls)
    (h : Concluded (cursor.polling queryId) queryId polled outcome result later more after) :
    Disciplined cursor line result (more ++ (polls ++ start)) := by
  cases concludes with
  | terminal only _ reports =>
    cases h with
    | unsuccessful =>
      change Disciplined cursor line _ (polls ++ start)
      refine disciplined_polls submits only ?_
      rintro (⟨_, _, same⟩ | ⟨⟨_, _, same⟩, _⟩) <;> cases same
    | unopened succeeded failure _ asks =>
      change Disciplined cursor line _ (_ :: (polls ++ start))
      exact disciplined_page submits only reports succeeded asks
        (not_givesUp_of_answer (ResultSet.pageOf_error failure))
    | opened succeeded _ asks =>
      change Disciplined cursor line _ (_ :: (polls ++ start))
      exact disciplined_page submits only reports succeeded asks (not_givesUp_ok cursor)
  | timedOut only =>
    cases h
    exact disciplined_stop [] (submits.countOf_polls only (by decide) (by decide))
      (submits.countOf_polls only (by decide) (by decide)) (.inl ⟨_, _, rfl⟩) (.inl rfl)
  | left only lenient =>
    cases h
    change Disciplined cursor line _ (polls ++ start)
    refine disciplined_polls submits only ?_
    rintro (⟨_, _, same⟩ | ⟨_, strict⟩)
    · cases same
    · rw [show cursor.options.cancelOnInterrupt = false from lenient] at strict
      cases strict
  | unstopped only strict =>
    cases h
    exact disciplined_stop [] (submits.countOf_polls only (by decide) (by decide))
      (submits.countOf_polls only (by decide) (by decide)) (.inr ⟨⟨_, _, rfl⟩, strict⟩) (.inl rfl)
  | stopped only strict granted =>
    cases h
    have same : (line.service.stop line.stopped).result =
        (middle.service.stop middle.stopped).result := by
      rw [submits.reaches.service, submits.reaches.stopped, submits.countOf_eq_zero (by decide)]
      rfl
    exact disciplined_stop [_] (submits.countOf_polls only (by decide) (by decide))
      (submits.countOf_polls only (by decide) (by decide)) (.inr ⟨⟨_, _, rfl⟩, strict⟩)
      (.inr ⟨_, _, rfl, ⟨_, _, rfl⟩, same.trans granted⟩)

theorem executed_disciplined {cursor later : QueryCursor} {sql : String} {line after : Line}
    {result : Except Error Unit} {calls : List TimedCall}
    (h : Executed cursor sql line result later calls after) :
    Disciplined cursor line result calls := by
  cases h with
  | unsubmitted failure =>
    refine disciplined_quiet rfl (not_givesUp_of_answer failure.ofAnswer) ?_
    intro later timed earlier split asks
    exact (ne_split_of_countOf_eq_zero rfl asks split).elim
  | unpolled submits _ concludes =>
    cases concludes with
    | failed only reports =>
      exact disciplined_polls submits only (not_givesUp_of_answer reports.ofAnswer)
  | concluded submits _ concludes _ concluded =>
    exact concluded_disciplined submits concludes concluded

end QueryCursor

end RemoteQuery
