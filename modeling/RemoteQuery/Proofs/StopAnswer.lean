import RemoteQuery.Proofs.Execution

/-!
# A timeout does not depend on the answer to its stop

A loop is given the replies to its polls and does not look at the service. So it runs the same on a
line whose service would answer a stop otherwise, and an execution that times out has the same
result and leaves the same cursor, however long the answer takes and whatever it is. This does not
hold of an execution that is interrupted: there the answer decides whether the state is asked for.
-/
namespace RemoteQuery

/-- The line with another service at its end. -/
def Line.on (line : Line) (service : Service) : Line := { line with service := service }

/-- The service with other answers to stops. The signals that are fired while a stop begins are
those of the service itself. -/
def Service.withStops (service : Service) (stops : Nat → Reply TransportError Unit) : Service :=
  { service with
    stop := fun index => { stops index with interrupts := (service.stop index).interrupts } }

def Line.withStops (line : Line) (stops : Nat → Reply TransportError Unit) : Line :=
  line.on (line.service.withStops stops)

namespace Polling

theorem waitUntil_on (service : Service) (line : Line) (deadline : Nat) (instant : Option Nat)
    (follow : Line → Round × Line)
    (sound : ∀ started : Line,
      follow (started.on service) = ((follow started).1, (follow started).2.on service)) :
    waitUntil (line.on service) deadline instant follow =
      ((waitUntil line deadline instant follow).1,
        (waitUntil line deadline instant follow).2.on service) := by
  unfold waitUntil
  have same : winner (line.on service) deadline instant = winner line deadline instant := rfl
  rw [same]
  cases winner line deadline instant with
  | interrupt | deadline => rfl
  | elapsed => exact sound (line.advanceTo (instant.getD line.now))

theorem poll_on (service : Service) (replies : Replies) (queryId : String) (deadline : Nat)
    (line : Line) :
    poll replies queryId deadline (line.on service) =
      ((poll replies queryId deadline line).1,
        (poll replies queryId deadline line).2.on service) := by
  have same : (line.on service).polled = line.polled := rfl
  unfold poll
  rw [same]
  cases replies line.polled with
  | none =>
    exact waitUntil_on service
      ({ line with polled := line.polled + 1 }.begin (.getQueryExecution queryId) false) deadline
      none (fun reached => (.deadline, reached)) fun _ => rfl
  | some reply =>
    by_cases prompt : reply.delay = 0
    · simp only [if_pos prompt]
      rfl
    · simp only [if_neg prompt]
      exact waitUntil_on service
        ({ line with polled := line.polled + 1 }.begin (.getQueryExecution queryId)
          reply.interrupts) deadline _
        (fun reached => (.answered (snapshotOf queryId reply.result), reached)) fun _ => rfl

theorem round_on (service : Service) (replies : Replies) (queryId : String)
    (deadline pause : Nat) (line : Line) :
    round replies queryId deadline pause (line.on service) =
      ((round replies queryId deadline pause line).1,
        (round replies queryId deadline pause line).2.on service) := by
  have same : (line.on service).clock.wake? (line.on service).now pause =
    line.clock.wake? line.now pause := rfl
  unfold round
  rw [same]
  cases line.clock.wake? line.now pause with
  | some instant =>
    exact waitUntil_on service line deadline _ _ (poll_on service replies queryId deadline)
  | none => exact waitUntil_on service line deadline _ _ fun _ => rfl

theorem loop_on (service : Service) (replies : Replies) (queryId : String)
    (deadline interval room pause : Nat) (last : Option Snapshot) (line : Line) :
    loop replies queryId deadline interval room pause last (line.on service) =
      ((loop replies queryId deadline interval room pause last line).1,
        (loop replies queryId deadline interval room pause last line).2.on service) := by
  generalize ran : loop replies queryId deadline interval room pause last line = found
  obtain ⟨ended, after⟩ := found
  induction room using Nat.strongRecOn generalizing pause last line with
  | ind room ih =>
    have same := round_on service replies queryId deadline pause line
    rcases loop_cases ran with ⟨_, here, exits⟩ | ⟨left, _, _, rfl, here, running, rest⟩
    · rw [here] at same
      exact loop_of_exit same exits
    · rw [here] at same
      rw [loop_of_running same running]
      exact ih left (Nat.lt_succ_self left) _ _ _ rest

theorem pollUntil?_withStops {line after : Line} {queryId : String} {policy : PollPolicy}
    {deadline : Nat} {last : Option Snapshot} (stops : Nat → Reply TransportError Unit)
    (h : pollUntil? line queryId policy deadline = some (.ok (.timedOut last), after)) :
    ∃ other, pollUntil? (line.withStops stops) queryId policy deadline =
        some (.ok (.timedOut last), other) ∧ other.interrupt = after.interrupt := by
  have replies : serviceReplies (line.withStops stops).service queryId =
      serviceReplies line.service queryId := rfl
  unfold pollUntil? at h ⊢
  rw [replies, Line.withStops, loop_on]
  generalize ran : loop (serviceReplies line.service queryId) queryId deadline
    policy.interval.ticks _ 0 none line = found at h ⊢
  obtain ⟨ended, reached⟩ := found
  obtain ⟨calls, _, reaches, _⟩ := loop_runs ran (by simp)
  cases ended with
  | interrupted =>
    simp only [settle?, stopInterrupted] at h
    split at h
    · split at h
      · cases h
      · split at h <;> cases h
    · cases h
  | answered result => cases result <;> cases h
  | lost => cases h
  | deadline last =>
    cases h
    refine ⟨_, rfl, ?_⟩
    change reached.interrupt.map _ = reached.interrupt.map _
    rw [← reaches.service]
    rfl

end Polling

namespace QueryCursor

theorem submit_withStops (params : ConnectionParams) (sql : String) (line : Line)
    (stops : Nat → Reply TransportError Unit) :
    submit params sql (line.withStops stops) =
      ((submit params sql line).1,
        (submit params sql line).2.on (line.service.withStops stops)) := by
  unfold submit
  generalize asked : request params sql (line.service.requestToken line.started) = asking
  have started : (line.withStops stops).startQuery asking =
      ((line.startQuery asking).1,
        (line.startQuery asking).2.on (line.service.withStops stops)) := rfl
  have same : request params sql
      ((line.withStops stops).service.requestToken (line.withStops stops).started) = asking := asked
  simp only [same, asked, started]
  generalize line.startQuery asking = found
  obtain ⟨source | response, reached⟩ := found
  · rfl
  · simp only
    split <;> rfl

theorem run?_withStops {cursor later : QueryCursor} {sql : String} {line after : Line}
    {queryId : String} {seconds : Nat} (stops : Nat → Reply TransportError Unit)
    (h : cursor.run? sql line =
      some (.error (.operational (.timedOut queryId seconds)), later, after)) :
    ∃ other, cursor.run? sql (line.withStops stops) =
        some (.error (.operational (.timedOut queryId seconds)), later, other) ∧
      other.interrupt = after.interrupt := by
  unfold run? at h ⊢
  rw [submit_withStops]
  generalize submitted : submit cursor.params sql line = answer at h ⊢
  obtain ⟨answer, middle⟩ := answer
  obtain ⟨_, _, started, ⟨error, rfl, failure⟩ | ⟨asked, rfl, nonempty, _⟩⟩ :=
    submit_cases submitted
  · cases h
    exact failure.ofAnswer.elim
  · obtain ⟨⟨polled, reached⟩, polling, ended⟩ := Option.map_eq_some_iff.mp h
    obtain ⟨deadline, timeout, ran⟩ := Option.bind_eq_some_iff.mp polling
    obtain ⟨polls, reaches, concludes⟩ := Polling.pollUntil?_concludes ran
    cases polled with
    | error error =>
      cases ended
      cases concludes with
      | failed _ reports => exact reports.ofAnswer.elim
    | ok outcome =>
      obtain ⟨more, onward, concluded⟩ := conclude_concluded nonempty concludes ended
      cases concluded with
      | unopened _ failure => exact (ResultSet.pageOf_error failure).elim
      | @timedOut last =>
        obtain ⟨other, same, signal⟩ := Polling.pollUntil?_withStops stops ran
        have service : middle.on (line.service.withStops stops) = middle.withStops stops := by
          rw [← started.service]
          rfl
        refine ⟨other, ?_, signal⟩
        have unmoved : (middle.withStops stops).deadline? (cursor.polling queryId).policy.timeout =
          some deadline := timeout
        have again : Polling.pollUntilTerminal? (middle.withStops stops) queryId
            (cursor.polling queryId).policy = some (.ok (.timedOut last), other) := by
          rw [Polling.pollUntilTerminal?, unmoved, Option.bind_some]
          exact same
        rw [service]
        exact congrArg (Option.map _) again

/-- What an execution that times out gives and leaves behind does not depend on the answer to its
stop. -/
theorem execute?_withStops {cursor later : QueryCursor} {sql : String} {line after : Line}
    {queryId : String} {seconds : Nat} (stops : Nat → Reply TransportError Unit)
    (h : cursor.execute? sql line =
      some (.error (.operational (.timedOut queryId seconds)), later, after)) :
    ∃ other, cursor.execute? sql (line.withStops stops) =
      some (.error (.operational (.timedOut queryId seconds)), later, other) := by
  have now : (line.withStops stops).now = line.now := rfl
  unfold execute? at h ⊢
  rw [now]
  cases refused : cursor.refusal? sql line.now with
  | some cause =>
    rw [refused] at h
    cases h
  | none =>
    simp only [refused] at h
    obtain ⟨⟨result, reached, last⟩, ran, same⟩ := Option.map_eq_some_iff.mp h
    cases same
    obtain ⟨other, again, signal⟩ := run?_withStops stops ran
    refine ⟨other, ?_⟩
    have attached : cursor.attach (line.withStops stops) = (cursor.attach line).withStops stops :=
      rfl
    simp only [perform?, attached, again, Option.map_some, detach, signal]

end QueryCursor

end RemoteQuery
