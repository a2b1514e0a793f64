import RemoteQuery.Proofs.PollWaits

/-!
# Polling without a result

Polling has no result if its deadline is no instant of the clock, and else just if its loop is lost:
it is to begin a wait that is over at no instant of the clock, or takes an answer that it cannot
count.
-/
namespace RemoteQuery.Polling

/-- The rounds come to one at which the loop is lost. -/
inductive Loses (replies : Replies) (queryId : String) (deadline interval : Nat) :
    (room pause : Nat) → Line → Prop
  | endless {room pause : Nat} {line after : Line}
      (ran : round replies queryId deadline pause line = (.lost, after)) :
      Loses replies queryId deadline interval room pause line
  | uncounted {pause : Nat} {line after : Line} {snapshot : Snapshot}
      (ran : round replies queryId deadline pause line = (.answered (.ok snapshot), after)) :
      Loses replies queryId deadline interval 0 pause line
  | later {room pause : Nat} {line middle : Line} {snapshot : Snapshot}
      (ran : round replies queryId deadline pause line = (.answered (.ok snapshot), middle))
      (running : snapshot.isTerminal = false)
      (onward : Loses replies queryId deadline interval room interval middle) :
      Loses replies queryId deadline interval (room + 1) pause line

theorem Round.exit?_eq_lost {room : Nat} {last : Option Snapshot} {roundEnd : Round}
    (h : roundEnd.exit? room last = some .lost) :
    roundEnd = .lost ∨ room = 0 ∧ ∃ snapshot, roundEnd = .answered (.ok snapshot) := by
  match roundEnd with
  | lost => exact .inl rfl
  | interrupted | deadline | answered (.error _) => cases h
  | answered (.ok snapshot) =>
    rw [exit?] at h
    split at h
    · rename_i full
      exact .inr ⟨full, snapshot, rfl⟩
    · split at h <;> cases h

theorem loop_lost_iff {replies : Replies} {queryId : String} {deadline interval room pause : Nat}
    {last : Option Snapshot} {line : Line} :
    (loop replies queryId deadline interval room pause last line).1 = .lost ↔
      Loses replies queryId deadline interval room pause line := by
  constructor
  · intro lost
    generalize ran : loop replies queryId deadline interval room pause last line = found at lost
    obtain ⟨_, after⟩ := found
    cases lost
    induction room using Nat.strongRecOn generalizing pause last line with
    | ind room ih =>
      rcases loop_cases ran with ⟨_, here, exits⟩ | ⟨left, _, _, rfl, here, running, rest⟩
      · obtain rfl | ⟨rfl, _, rfl⟩ := Round.exit?_eq_lost exits
        · exact .endless here
        · exact .uncounted here
      · exact .later here running (ih left (Nat.lt_succ_self left) rest)
  · intro loses
    induction loses generalizing last with
    | endless ran | uncounted ran => rw [loop_of_exit ran rfl]
    | later ran running _ ih =>
      rw [loop_of_running ran running]
      exact ih

/-- The loop of polling is lost. -/
def Lost (line : Line) (queryId : String) (policy : PollPolicy) : Prop :=
  Loses (serviceReplies line.service queryId) queryId (line.now + policy.timeout.ticks)
    policy.interval.ticks mostAnswers 0 line

theorem settle?_eq_none_iff {queryId : String} {policy : PollPolicy} {ended : LoopEnd}
    {line : Line} : settle? queryId policy (ended, line) = none ↔ ended = .lost := by
  match ended with
  | .lost => exact iff_of_true rfl rfl
  | .answered (.ok _) | .answered (.error _) | .deadline _ => exact iff_of_false nofun nofun
  | .interrupted =>
    rw [settle?]
    split <;> exact iff_of_false nofun nofun

theorem pollUntilTerminal?_eq_none_iff {line : Line} {queryId : String} {policy : PollPolicy} :
    pollUntilTerminal? line queryId policy = none ↔
      line.clock.limit ≤ line.now + policy.timeout.ticks ∨ Lost line queryId policy := by
  rw [pollUntilTerminal?]
  cases timeout : line.deadline? policy.timeout with
  | none => exact iff_of_true rfl (.inl (Line.deadline?_eq_none_iff.mp timeout))
  | some deadline =>
    obtain ⟨rfl, held⟩ := Line.deadline?_eq_some_iff.mp timeout
    rw [Option.bind_some, pollUntil?, settle?_eq_none_iff, loop_lost_iff]
    exact ⟨.inr, fun none => none.resolve_left (Nat.not_le.mpr held)⟩

end RemoteQuery.Polling
