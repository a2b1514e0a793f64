import RemoteQuery.Proofs.CallDiscipline

/-!
# Attempts among the calls of a statement

The provider is asked for a client by a call of its own. Neither a request of a page nor polling
makes such a call, whatever the service answers.
-/
namespace RemoteQuery

def Call.isAttempt : Call → Bool
  | .assumeRole .. => true
  | _ => false

/-- How many of the calls ask the provider for a client. -/
def attemptsIn (calls : List TimedCall) : Nat := calls.countP fun timed => timed.call.isAttempt

@[simp] theorem attemptsIn_nil : attemptsIn [] = 0 := rfl

@[simp] theorem attemptsIn_append (later earlier : List TimedCall) :
    attemptsIn (later ++ earlier) = attemptsIn later + attemptsIn earlier :=
  List.countP_append

theorem not_isAttempt_of_quiet {calls : List TimedCall} (quiet : attemptsIn calls = 0)
    {timed : TimedCall} (member : timed ∈ calls) : ¬ timed.call.isAttempt = true :=
  List.countP_eq_zero.mp quiet timed member

theorem OnlyAbout.attemptsIn_eq_zero {queryId : String} {calls : List TimedCall}
    (h : OnlyAbout queryId calls) : attemptsIn calls = 0 := by
  rw [attemptsIn, List.countP_eq_zero]
  rintro ⟨instant, call⟩ member attempt
  have about := h _ member
  cases call with
  | assumeRole => cases about
  | _ => cases attempt

theorem QueryCursor.Sends.attemptsIn_eq_zero {cursor later : QueryCursor} {line : Line}
    {calls : List TimedCall} (h : Sends cursor line later calls) : attemptsIn calls = 0 := by
  cases h with
  | nothing => rfl
  | about _ _ about => exact about.attemptsIn_eq_zero
  | unsubmitted => rfl
  | submitted _ _ about =>
    rw [attemptsIn_append, about.attemptsIn_eq_zero]
    rfl

theorem Line.attempts_getQueryResults (line : Line) (request : Message.GetQueryResultsRequest) :
    (line.getQueryResults request).2.attempts = line.attempts := by
  unfold getQueryResults
  split <;> rfl

namespace Polling

theorem attempts_waitUntil {line : Line} {deadline : Nat} {instant : Option Nat}
    {follow : Line → Round × Line}
    (following : ∀ line, (follow line).2.attempts = line.attempts) :
    (waitUntil line deadline instant follow).2.attempts = line.attempts := by
  unfold waitUntil
  split
  · rfl
  · rfl
  · exact following _

theorem attempts_poll (replies : Replies) (queryId : String) (deadline : Nat) (line : Line) :
    (poll replies queryId deadline line).2.attempts = line.attempts := by
  unfold poll
  simp only
  split
  · exact attempts_waitUntil fun _ => rfl
  · split
    · rfl
    · exact attempts_waitUntil fun _ => rfl

theorem attempts_round {replies : Replies} {queryId : String} {deadline pause : Nat}
    {line after : Line} {ended : Round}
    (h : round replies queryId deadline pause line = (ended, after)) :
    after.attempts = line.attempts := by
  have kept : (round replies queryId deadline pause line).2.attempts = line.attempts := by
    unfold round
    split
    · exact attempts_waitUntil (attempts_poll replies queryId deadline)
    · exact attempts_waitUntil fun _ => rfl
  rwa [h] at kept

theorem attempts_loop {replies : Replies} {queryId : String} {deadline interval room pause : Nat}
    {last : Option Snapshot} {line after : Line} {ended : LoopEnd}
    (h : loop replies queryId deadline interval room pause last line = (ended, after)) :
    after.attempts = line.attempts := by
  induction room using Nat.strongRecOn generalizing pause last line with
  | ind room ih =>
    rcases loop_cases h with ⟨_, ran, _⟩ | ⟨left, _, _, rfl, ran, _, rest⟩
    · exact attempts_round ran
    · exact (ih left (Nat.lt_succ_self left) rest).trans (attempts_round ran)

theorem attempts_stopInterrupted (line : Line) (queryId : String) :
    (stopInterrupted line queryId).2.attempts = line.attempts := by
  have stopped : (line.stopQuery queryId).2.attempts = line.attempts := rfl
  unfold stopInterrupted
  split
  · rename_i refused
    rwa [refused] at stopped
  · rename_i reached granted
    rw [granted] at stopped
    have polled : (pollOnce reached queryId).2.attempts = reached.attempts := rfl
    split
    all_goals
      rename_i answered
      rw [answered] at polled
      exact polled.trans stopped

theorem attempts_settle? {queryId : String} {policy : PollPolicy} {ended : LoopEnd}
    {line after : Line} {result : Except Error PollOutcome}
    (h : settle? queryId policy (ended, line) = some (result, after)) :
    after.attempts = line.attempts := by
  match ended with
  | .answered (.ok _) | .answered (.error _) | .deadline _ =>
    cases h
    rfl
  | .interrupted =>
    simp only [settle?] at h
    split at h
    · cases h
      exact attempts_stopInterrupted line queryId
    · cases h
      rfl
  | .lost => cases h

theorem attempts_pollUntilTerminal? {line after : Line} {queryId : String} {policy : PollPolicy}
    {result : Except Error PollOutcome}
    (h : pollUntilTerminal? line queryId policy = some (result, after)) :
    after.attempts = line.attempts := by
  obtain ⟨deadline, _, polled⟩ := Option.bind_eq_some_iff.mp h
  rw [pollUntil?] at polled
  generalize ran : loop _ queryId deadline _ _ 0 none line = found at polled
  obtain ⟨ended, middle⟩ := found
  exact (attempts_settle? polled).trans (attempts_loop ran)

end Polling

namespace ResultSet

theorem attempts_fetchPage {line after : Line} {queryId : String} {pageSize : Nat}
    {token : Option String} {result : Except Error ResultPage}
    (h : fetchPage line queryId pageSize token = (result, after)) :
    after.attempts = line.attempts := by
  cases h
  exact line.attempts_getQueryResults ⟨queryId, pageSize, token⟩

theorem attempts_openFor {line after : Line} {queryId : String} {pageSize : Nat}
    {result : Except Error ResultSet} (h : openFor line queryId pageSize = (result, after)) :
    after.attempts = line.attempts := by
  unfold openFor at h
  split at h
  · cases h
    rfl
  · simp only at h
    split at h
    all_goals
      rename_i came
      cases h
      exact attempts_fetchPage came

theorem Loads.attempts {demand : Demand} {set last : ResultSet} {line after : Line}
    {pages : List ResultPage} {result : Except Error Unit}
    (h : Loads demand set line pages result last after) : after.attempts = line.attempts := by
  induction h with
  | met => rfl
  | failed _ refused => exact attempts_fetchPage refused
  | page _ came _ ih => exact ih.trans (attempts_fetchPage came)

theorem attempts_fetch {demand : Demand} {set last : ResultSet} {line after : Line}
    {result : Except Error (List Row)} (h : set.fetch demand line = (result, last, after)) :
    after.attempts = line.attempts := by
  obtain ⟨pages, loads⟩ := load_loads demand set line
  have loaded := loads.attempts
  unfold fetch at h
  split at h
  · cases h
    rfl
  · split at h
    all_goals
      rename_i came
      rw [came] at loaded
      cases h
      exact loaded

theorem attempts_fetchOne {set last : ResultSet} {line after : Line}
    {result : Except Error (Option Row)} (h : set.fetchOne line = (result, last, after)) :
    after.attempts = line.attempts := by
  cases h
  exact attempts_fetch rfl

end ResultSet

end RemoteQuery
