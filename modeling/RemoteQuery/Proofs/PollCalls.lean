import RemoteQuery.Proofs.PollWaits

/-!
# The calls of a poll loop

A loop makes polls and nothing else, and it ends with the last answer that it took. What follows the
loop is at most one stop and, after an interrupt, one further look. Nothing is said here of when the
polls are made; the interval may be zero and replies may fire the signal.
-/
namespace RemoteQuery.Polling

def OnlyPolls (queryId : String) (calls : List TimedCall) : Prop :=
  ∀ timed ∈ calls, timed.call = .getQueryExecution queryId

theorem OnlyPolls.nil {queryId : String} : OnlyPolls queryId [] := nofun

theorem OnlyPolls.cons {queryId : String} {calls : List TimedCall} (h : OnlyPolls queryId calls)
    (instant : Nat) : OnlyPolls queryId (⟨instant, .getQueryExecution queryId⟩ :: calls) := by
  intro timed member
  rcases List.mem_cons.mp member with rfl | member
  · rfl
  · exact h timed member

theorem OnlyPolls.append {queryId : String} {later earlier : List TimedCall}
    (h : OnlyPolls queryId later) (h' : OnlyPolls queryId earlier) :
    OnlyPolls queryId (later ++ earlier) := by
  intro timed member
  rcases List.mem_append.mp member with member | member
  · exact h timed member
  · exact h' timed member

theorem OnlyPolls.countOf_eq_zero {queryId : String} {calls : List TimedCall}
    (h : OnlyPolls queryId calls) {operation : Operation}
    (other : operation ≠ .getQueryExecution) : countOf operation calls = 0 := by
  rw [countOf, List.countP_eq_zero]
  intro timed member
  simp [h timed member, Call.operation?, other.symm]

/-- The latest of the calls is a poll, and this is its answer. Earlier polls on the line used up the
first replies. -/
def Reports (replies : Replies) (polled : Nat) (answer : Except Error Snapshot) :
    List TimedCall → Prop
  | [] => False
  | timed :: earlier => ∃ queryId reply, timed.call = .getQueryExecution queryId ∧
      replies (polled + countOf .getQueryExecution earlier) = some reply ∧
      snapshotOf queryId reply.result = answer

theorem Reports.after {replies : Replies} {answer : Except Error Snapshot} {line later : Line}
    {calls earlier : List TimedCall} (reaches : line.Reaches earlier later)
    (h : Reports replies later.polled answer calls) :
    Reports replies line.polled answer (calls ++ earlier) := by
  cases calls with
  | nil => exact h.elim
  | cons timed rest =>
    obtain ⟨asked, reply, call, found, answer⟩ := h
    refine ⟨asked, reply, call, ?_, answer⟩
    rw [reaches.polled, Nat.add_assoc] at found
    change replies (line.polled + countOf .getQueryExecution (rest ++ earlier)) = some reply
    rwa [countOf_append, Nat.add_comm (countOf .getQueryExecution rest)]

/-- What a round does to the line: it makes at most one poll, and takes no answer but that one's. -/
inductive RoundRuns (replies : Replies) (queryId : String) (line : Line) : Round → Line → Prop
  | interrupted {calls : List TimedCall} {after : Line} (polls : OnlyPolls queryId calls)
      (reaches : line.Reaches calls after) : RoundRuns replies queryId line .interrupted after
  | deadline {calls : List TimedCall} {after : Line} (polls : OnlyPolls queryId calls)
      (reaches : line.Reaches calls after) : RoundRuns replies queryId line .deadline after
  | answered {instant : Nat} {after : Line}
      {reply : Reply TransportError Message.GetQueryExecutionResponse}
      (found : replies line.polled = some reply)
      (reaches : line.Reaches [⟨instant, .getQueryExecution queryId⟩] after) :
      RoundRuns replies queryId line (.answered (snapshotOf queryId reply.result)) after
  | lost {after : Line} (reaches : line.Reaches [] after) :
      RoundRuns replies queryId line .lost after

theorem poll_runs {replies : Replies} {queryId : String} {deadline : Nat} {line after : Line}
    {ended : Round} (h : poll replies queryId deadline line = (ended, after)) :
    RoundRuns replies queryId line ended after := by
  have begun (interrupts : Bool) :
      line.Reaches [⟨line.now, .getQueryExecution queryId⟩]
        ({ line with polled := line.polled + 1 }.begin (.getQueryExecution queryId) interrupts) :=
    ⟨rfl, rfl, rfl, rfl, rfl, rfl, rfl, Nat.le_refl _⟩
  have single : OnlyPolls queryId [⟨line.now, .getQueryExecution queryId⟩] :=
    OnlyPolls.nil.cons line.now
  unfold poll at h
  cases found : replies line.polled with
  | none =>
    simp only [found] at h
    rcases waitUntil_cases h with ⟨rfl, quiet⟩ | ⟨rfl, quiet⟩ | ⟨started, quiet, follow⟩
    · exact .interrupted single ((begun _).trans quiet)
    · exact .deadline single ((begun _).trans quiet)
    · cases follow
      exact .deadline single ((begun _).trans quiet)
  | some reply =>
    simp only [found] at h
    split at h
    · cases h
      exact .answered found (begun _)
    · rcases waitUntil_cases h with ⟨rfl, quiet⟩ | ⟨rfl, quiet⟩ | ⟨started, quiet, follow⟩
      · exact .interrupted single ((begun _).trans quiet)
      · exact .deadline single ((begun _).trans quiet)
      · cases follow
        exact .answered found ((begun _).trans quiet)

theorem round_runs {replies : Replies} {queryId : String} {deadline pause : Nat}
    {line after : Line} {ended : Round}
    (h : round replies queryId deadline pause line = (ended, after)) :
    RoundRuns replies queryId line ended after := by
  rcases round_cases h with ⟨_, waits⟩ | ⟨_, waits⟩
  · rcases waitUntil_cases waits with ⟨rfl, quiet⟩ | ⟨rfl, quiet⟩ | ⟨started, quiet, follow⟩
    · exact .interrupted .nil quiet
    · exact .deadline .nil quiet
    · cases poll_runs follow with
      | interrupted polls reaches => exact .interrupted (polls.append .nil) (quiet.trans reaches)
      | deadline polls reaches => exact .deadline (polls.append .nil) (quiet.trans reaches)
      | answered found reaches =>
        have polled : started.polled = line.polled := quiet.polled
        rw [polled] at found
        exact .answered found (quiet.trans reaches)
      | lost reaches => exact .lost (quiet.trans reaches)
  · rcases waitUntil_cases waits with ⟨rfl, quiet⟩ | ⟨rfl, quiet⟩ | ⟨started, quiet, follow⟩
    · exact .interrupted .nil quiet
    · exact .deadline .nil quiet
    · cases follow
      exact .lost quiet

/-- What a loop does to the line. The snapshot that a deadline leaves behind is not of a terminal
state, and an answer that ends the loop is that of its last poll. -/
inductive LoopRuns (replies : Replies) (queryId : String) (line : Line) :
    LoopEnd → List TimedCall → Prop
  | interrupted {calls : List TimedCall} : LoopRuns replies queryId line .interrupted calls
  | deadline {calls : List TimedCall} {last : Option Snapshot}
      (pending : ∀ snapshot ∈ last, snapshot.isTerminal = false) :
      LoopRuns replies queryId line (.deadline last) calls
  | failed {calls : List TimedCall} {error : Error}
      (reports : Reports replies line.polled (.error error) calls) :
      LoopRuns replies queryId line (.answered (.error error)) calls
  | terminal {calls : List TimedCall} {snapshot : Snapshot} (terminal : snapshot.isTerminal = true)
      (reports : Reports replies line.polled (.ok snapshot) calls) :
      LoopRuns replies queryId line (.answered (.ok snapshot)) calls
  | lost {calls : List TimedCall} : LoopRuns replies queryId line .lost calls

theorem LoopRuns.after {replies : Replies} {queryId : String} {line later : Line} {ended : LoopEnd}
    {calls earlier : List TimedCall} (reaches : line.Reaches earlier later)
    (h : LoopRuns replies queryId later ended calls) :
    LoopRuns replies queryId line ended (calls ++ earlier) := by
  cases h with
  | interrupted => exact .interrupted
  | deadline pending => exact .deadline pending
  | failed reports => exact .failed (reports.after reaches)
  | terminal terminal reports => exact .terminal terminal (reports.after reaches)
  | lost => exact .lost

theorem loop_runs {replies : Replies} {queryId : String} {deadline interval room pause : Nat}
    {last : Option Snapshot} {line after : Line} {ended : LoopEnd}
    (h : loop replies queryId deadline interval room pause last line = (ended, after))
    (pending : ∀ snapshot ∈ last, snapshot.isTerminal = false) :
    ∃ calls, OnlyPolls queryId calls ∧ line.Reaches calls after ∧
      LoopRuns replies queryId line ended calls := by
  induction room using Nat.strongRecOn generalizing pause last line with
  | ind room ih =>
    rcases loop_cases h with
      ⟨roundEnd, ran, exits⟩ | ⟨left, snapshot, middle, rfl, ran, running, rest⟩
    · cases round_runs ran with
      | interrupted polls reaches =>
        cases exits
        exact ⟨_, polls, reaches, .interrupted⟩
      | deadline polls reaches =>
        cases exits
        exact ⟨_, polls, reaches, .deadline pending⟩
      | lost reaches =>
        cases exits
        exact ⟨_, .nil, reaches, .lost⟩
      | @answered instant _ reply found reaches =>
        have single : OnlyPolls queryId [⟨instant, .getQueryExecution queryId⟩] :=
          OnlyPolls.nil.cons instant
        cases answer : snapshotOf queryId reply.result with
        | error error =>
          rw [answer] at exits
          cases exits
          exact ⟨_, single, reaches, .failed ⟨queryId, reply, rfl, found, answer⟩⟩
        | ok snapshot =>
          simp only [answer, Round.exit?] at exits
          split at exits
          · cases exits
            exact ⟨_, single, reaches, .lost⟩
          · split at exits
            · rename_i terminal
              cases exits
              exact ⟨_, single, reaches, .terminal terminal ⟨queryId, reply, rfl, found, answer⟩⟩
            · cases exits
    · generalize answered : Round.answered (.ok snapshot) = roundEnd at ran
      cases round_runs ran with
      | interrupted | deadline | lost => cases answered
      | @answered instant _ reply _ reaches =>
        obtain ⟨calls, polls, onward, ends⟩ :=
          ih left (Nat.lt_succ_self left) rest (by rintro _ ⟨⟩; exact running)
        exact ⟨_, polls.append (OnlyPolls.nil.cons instant), reaches.trans onward,
          ends.after reaches⟩

/-- How polling ends, with the calls that it makes. A stop is made at the deadline, and after an
interrupt if the policy says so; a look follows the stop only if that went well. -/
inductive Concludes (line : Line) (queryId : String) (policy : PollPolicy) :
    Except Error PollOutcome → List TimedCall → Prop
  | terminal {calls : List TimedCall} {snapshot : Snapshot} (polls : OnlyPolls queryId calls)
      (terminal : snapshot.isTerminal = true)
      (reports : Reports (serviceReplies line.service queryId) line.polled (.ok snapshot) calls) :
      Concludes line queryId policy (.ok (.terminal snapshot)) calls
  | failed {calls : List TimedCall} {error : Error} (polls : OnlyPolls queryId calls)
      (reports : Reports (serviceReplies line.service queryId) line.polled (.error error) calls) :
      Concludes line queryId policy (.error error) calls
  | timedOut {calls : List TimedCall} {last : Option Snapshot} {instant : Nat}
      (polls : OnlyPolls queryId calls) (pending : ∀ snapshot ∈ last, snapshot.isTerminal = false) :
      Concludes line queryId policy (.ok (.timedOut last)) (⟨instant, .stopQuery queryId⟩ :: calls)
  | left {calls : List TimedCall} (polls : OnlyPolls queryId calls)
      (lenient : policy.cancelOnInterrupt = false) :
      Concludes line queryId policy (.ok (.interrupted none)) calls
  | unstopped {calls : List TimedCall} {source : TransportError} {instant : Nat}
      (polls : OnlyPolls queryId calls) (strict : policy.cancelOnInterrupt = true)
      (refused : (line.service.stop line.stopped).result = .error source) :
      Concludes line queryId policy (.ok (.interrupted none))
        (⟨instant, .stopQuery queryId⟩ :: calls)
  | stopped {calls : List TimedCall} {state : Option Snapshot} {instant later : Nat}
      (polls : OnlyPolls queryId calls) (strict : policy.cancelOnInterrupt = true)
      (granted : (line.service.stop line.stopped).result = .ok ()) :
      Concludes line queryId policy (.ok (.interrupted state))
        (⟨later, .getQueryExecution queryId⟩ :: ⟨instant, .stopQuery queryId⟩ :: calls)

theorem stopInterrupted_reaches {line after : Line} {queryId : String} {outcome : PollOutcome}
    (h : stopInterrupted line queryId = (outcome, after)) :
    (∃ source, (line.service.stop line.stopped).result = .error source ∧
      outcome = .interrupted none ∧ line.Reaches [⟨line.now, .stopQuery queryId⟩] after) ∨
    (line.service.stop line.stopped).result = .ok () ∧
      ∃ state later, outcome = .interrupted state ∧
        line.Reaches ([⟨later, .getQueryExecution queryId⟩] ++ [⟨line.now, .stopQuery queryId⟩])
          after := by
  have stop := line.reaches_stopQuery queryId
  have answered : (line.stopQuery queryId).1 = (line.service.stop line.stopped).result := rfl
  unfold stopInterrupted at h
  generalize line.stopQuery queryId = reply at h stop answered
  obtain ⟨source | _, stopped⟩ := reply
  · cases h
    exact .inl ⟨source, answered.symm, rfl, stop⟩
  · have look := stopped.reaches_getQueryExecution queryId
    simp only [pollOnce] at h
    generalize stopped.getQueryExecution queryId = asked at h look
    obtain ⟨answer, asked⟩ := asked
    refine .inr ⟨answered.symm, ?_⟩
    cases found : snapshotOf queryId answer with
    | ok | error =>
      simp only [found] at h
      cases h
      exact ⟨_, _, rfl, stop.trans look⟩

theorem stopInterrupted_concludes {line middle after : Line} {queryId : String}
    {policy : PollPolicy} {outcome : PollOutcome} {calls : List TimedCall}
    (polls : OnlyPolls queryId calls) (reaches : line.Reaches calls middle)
    (strict : policy.cancelOnInterrupt = true)
    (h : stopInterrupted middle queryId = (outcome, after)) :
    ∃ calls, line.Reaches calls after ∧ Concludes line queryId policy (.ok outcome) calls := by
  have answered : (middle.service.stop middle.stopped).result =
      (line.service.stop line.stopped).result := by
    rw [reaches.service, reaches.stopped, polls.countOf_eq_zero (by decide), Nat.add_zero]
  rcases stopInterrupted_reaches h with ⟨source, refused, rfl, onward⟩ |
    ⟨granted, state, later, rfl, onward⟩
  · exact ⟨_, reaches.trans onward, .unstopped polls strict (answered.symm.trans refused)⟩
  · exact ⟨_, reaches.trans onward, .stopped polls strict (answered.symm.trans granted)⟩

theorem pollUntil?_concludes {line after : Line} {queryId : String} {policy : PollPolicy}
    {deadline : Nat} {result : Except Error PollOutcome}
    (h : pollUntil? line queryId policy deadline = some (result, after)) :
    ∃ calls, line.Reaches calls after ∧ Concludes line queryId policy result calls := by
  rw [pollUntil?] at h
  generalize ran : loop _ queryId deadline _ _ 0 none line = loopResult at h
  obtain ⟨ended, middle⟩ := loopResult
  obtain ⟨calls, polls, reaches, runs⟩ := loop_runs ran (by simp)
  cases runs with
  | interrupted =>
    simp only [settle?] at h
    split at h
    · rename_i strict
      cases h
      exact stopInterrupted_concludes polls reaches strict rfl
    · rename_i lenient
      cases h
      exact ⟨calls, reaches, .left polls (by simpa using lenient)⟩
  | deadline pending =>
    cases h
    exact ⟨_, reaches.trans (middle.reaches_stopQuery queryId), .timedOut polls pending⟩
  | failed reports =>
    cases h
    exact ⟨calls, reaches, .failed polls reports⟩
  | terminal terminal reports =>
    cases h
    exact ⟨calls, reaches, .terminal polls terminal reports⟩
  | lost => cases h

end RemoteQuery.Polling
