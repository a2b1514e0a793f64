import RemoteQuery.Proofs.PollCalls

/-!
# When a query is given up

Polling is given up at the deadline, or when the signal is fired, and never before. This holds for
any interval and any replies, those included that fire the signal themselves; which of the two comes
first is the matter of the race.
-/
namespace RemoteQuery

theorem Line.interruptedBy_iff_firedBy {line : Line} {instant : Nat} :
    line.interruptedBy instant = true ↔
      ∃ signal ∈ line.interrupt, signal.firedBy instant = true := by
  unfold interruptedBy
  cases line.interrupt <;> simp

theorem Line.interruptedBy_firing {line : Line} {instant : Nat}
    (h : line.interruptedBy instant = true) :
    (line.advanceTo line.firing).interruptedBy (line.advanceTo line.firing).now = true := by
  obtain ⟨firing, fires, _, now⟩ := Polling.exists_firing h
  refine Polling.interruptedBy_iff.mpr ⟨firing, fires, ?_⟩
  rw [now]
  exact Nat.le_max_right line.now firing

theorem Line.interruptedBy_ask {ε α : Type} {line : Line} (call : Call) (reply : Reply ε α)
    (h : line.interruptedBy line.now = true) :
    (line.ask call reply).2.interruptedBy (line.ask call reply).2.now = true := by
  obtain ⟨signal, held, fired⟩ := interruptedBy_iff_firedBy.mp h
  have later : line.now ≤ (line.ask call reply).2.now := Nat.le_add_right _ _
  -- A call fires the signal or leaves it as it is.
  refine interruptedBy_iff_firedBy.mpr
    ⟨if reply.interrupts then signal.fireAt line.now else signal, ?_, ?_⟩
  · change line.interrupt.map _ = some _
    rw [Option.mem_def.mp held]
    rfl
  · split
    · exact Signal.firedBy_fireAt.mpr (.inl (Signal.firedBy_mono later fired))
    · exact Signal.firedBy_mono later fired

/-- What has ended polling was due: at a timeout the deadline is there, and after an interrupt the
signal is fired. -/
def PollOutcome.Due (deadline : Nat) (line : Line) : PollOutcome → Prop
  | .terminal _ => True
  | .timedOut _ => deadline ≤ line.now
  | .interrupted _ => line.interruptedBy line.now = true

namespace Polling

/-- What has ended the round was due. -/
def Round.Due (limit : Nat) (line : Line) : Round → Prop
  | interrupted => line.interruptedBy line.now = true
  | deadline => limit ≤ line.now
  | answered _ | lost => True

def LoopEnd.Due (limit : Nat) (line : Line) : LoopEnd → Prop
  | interrupted => line.interruptedBy line.now = true
  | deadline _ => limit ≤ line.now
  | answered _ | lost => True

theorem waitUntil_due {line after : Line} {deadline : Nat} {instant : Option Nat}
    {follow : Line → Round × Line} {ended : Round}
    (follows : ∀ target ∈ instant, ∀ started, (follow started).1.Due deadline (follow started).2)
    (h : waitUntil line deadline instant follow = (ended, after)) : ended.Due deadline after := by
  have later := Nat.le_max_right line.now deadline
  unfold waitUntil winner at h
  split at h
  · rename_i won
    split at won
    · rename_i fired
      cases h
      exact Line.interruptedBy_firing fired
    · split at won
      · split at won <;> cases won
      · cases won
  · cases h
    exact later
  · rename_i won
    cases instant with
    | none => split at won <;> cases won
    | some target =>
      have due := follows target rfl (line.advanceTo target)
      rw [show follow (line.advanceTo target) = (ended, after) from h] at due
      exact due

theorem poll_due {replies : Replies} {queryId : String} {deadline : Nat} {line after : Line}
    {ended : Round} (h : poll replies queryId deadline line = (ended, after)) :
    ended.Due deadline after := by
  unfold poll at h
  cases found : replies line.polled with
  | none =>
    simp only [found] at h
    refine waitUntil_due ?_ h
    rintro _ ⟨⟩
  | some reply =>
    simp only [found] at h
    split at h
    · cases h
      exact True.intro
    · refine waitUntil_due ?_ h
      intro _ _ _
      exact True.intro

theorem round_due {replies : Replies} {queryId : String} {deadline pause : Nat}
    {line after : Line} {ended : Round}
    (h : round replies queryId deadline pause line = (ended, after)) :
    ended.Due deadline after := by
  rcases round_cases h with ⟨_, waits⟩ | ⟨_, waits⟩
  · exact waitUntil_due (fun _ _ _ => poll_due rfl) waits
  · refine waitUntil_due ?_ waits
    intro _ _ _
    exact True.intro

theorem loop_due {replies : Replies} {queryId : String} {deadline interval room pause : Nat}
    {last : Option Snapshot} {line after : Line} {ended : LoopEnd}
    (h : loop replies queryId deadline interval room pause last line = (ended, after)) :
    ended.Due deadline after := by
  induction room using Nat.strongRecOn generalizing pause last line with
  | ind room ih =>
    rcases loop_cases h with ⟨roundEnd, ran, exits⟩ | ⟨left, _, _, rfl, _, _, rest⟩
    · have due := round_due ran
      cases roundEnd with
      | interrupted | deadline =>
        cases exits
        exact due
      | lost =>
        cases exits
        exact True.intro
      | answered result =>
        cases ended with
        | answered | lost => exact True.intro
        | interrupted | deadline =>
          cases result with
          | error error => cases exits
          | ok snapshot =>
            simp only [Round.exit?] at exits
            split at exits
            · cases exits
            · split at exits <;> cases exits
    · exact ih left (Nat.lt_succ_self left) rest

theorem stopInterrupted_interrupted {line after : Line} {queryId : String} {outcome : PollOutcome}
    (fired : line.interruptedBy line.now = true)
    (h : stopInterrupted line queryId = (outcome, after)) :
    (∃ state, outcome = .interrupted state) ∧ after.interruptedBy after.now = true := by
  have stopped : (line.stopQuery queryId).2.interruptedBy (line.stopQuery queryId).2.now = true :=
    @Line.interruptedBy_ask _ _ { line with stopped := line.stopped + 1 } _ _ fired
  unfold stopInterrupted at h
  generalize line.stopQuery queryId = reply at h stopped
  obtain ⟨source | _, middle⟩ := reply
  · cases h
    exact ⟨⟨_, rfl⟩, stopped⟩
  · have looked : (middle.getQueryExecution queryId).2.interruptedBy
        (middle.getQueryExecution queryId).2.now = true :=
      @Line.interruptedBy_ask _ _ { middle with polled := middle.polled + 1 } _ _ stopped
    simp only [pollOnce] at h
    generalize middle.getQueryExecution queryId = asked at h looked
    obtain ⟨answer, last⟩ := asked
    cases found : snapshotOf queryId answer with
    | ok | error =>
      simp only [found] at h
      cases h
      exact ⟨⟨_, rfl⟩, looked⟩

theorem pollUntilTerminal?_due {line after : Line} {queryId : String} {policy : PollPolicy}
    {outcome : PollOutcome}
    (h : pollUntilTerminal? line queryId policy = some (.ok outcome, after)) :
    outcome.Due (line.now + policy.timeout.ticks) after := by
  obtain ⟨deadline, found, ran⟩ := Option.bind_eq_some_iff.mp h
  obtain ⟨rfl, _⟩ := Line.deadline?_eq_some_iff.mp found
  rw [pollUntil?] at ran
  generalize looped : loop _ queryId _ _ _ 0 none line = result at ran
  obtain ⟨ended, middle⟩ := result
  have due := loop_due looped
  cases ended with
  | answered result =>
    cases result with
    | error error => cases ran
    | ok snapshot =>
      cases ran
      exact True.intro
  | deadline last =>
    have stop := (middle.reaches_stopQuery queryId).now
    cases ran
    exact Nat.le_trans due stop
  | interrupted =>
    simp only [settle?] at ran
    split at ran
    · generalize stopped : stopInterrupted middle queryId = found at ran
      obtain ⟨outcome, last⟩ := found
      obtain ⟨⟨state, rfl⟩, fired⟩ := stopInterrupted_interrupted due stopped
      cases ran
      exact fired
    · cases ran
      exact due
  | lost => cases ran

end Polling

end RemoteQuery
