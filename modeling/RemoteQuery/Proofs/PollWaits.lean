import RemoteQuery.Polling
import RemoteQuery.Proofs.Transcript

/-!
# What ends a wait

A wait of the poll loop ends with the first of three instants: that of the signal, the deadline, and
the one that is waited for, which may never come. A round of the loop is a wait for its poll and, if
the poll is made, a wait for the answer.
-/
namespace RemoteQuery.Polling

theorem interruptedBy_iff {line : Line} {instant : Nat} :
    line.interruptedBy instant = true ↔
      ∃ firing ∈ line.interrupt.bind Signal.firesAt, firing ≤ instant := by
  unfold Line.interruptedBy
  cases line.interrupt with
  | none => simp
  | some signal =>
    unfold Signal.firedBy
    cases fires : signal.firesAt <;> simp [fires]

theorem exists_firing {line : Line} {instant : Nat} (fired : line.interruptedBy instant = true) :
    ∃ firing ∈ line.interrupt.bind Signal.firesAt, firing ≤ instant ∧ line.firing = firing := by
  obtain ⟨firing, fires, early⟩ := interruptedBy_iff.mp fired
  refine ⟨firing, fires, early, ?_⟩
  rw [Line.firing, Option.mem_def.mp fires]
  rfl

theorem waitUntil_cases {line after : Line} {deadline : Nat} {instant : Option Nat}
    {follow : Line → Round × Line} {ended : Round}
    (h : waitUntil line deadline instant follow = (ended, after)) :
    (ended = .interrupted ∧ line.Reaches [] after) ∨ (ended = .deadline ∧ line.Reaches [] after) ∨
      ∃ started, line.Reaches [] started ∧ follow started = (ended, after) := by
  unfold waitUntil at h
  split at h
  · cases h
    exact .inl ⟨rfl, line.reaches_advanceTo _⟩
  · cases h
    exact .inr (.inl ⟨rfl, line.reaches_advanceTo _⟩)
  · exact .inr (.inr ⟨_, line.reaches_advanceTo _, h⟩)

theorem waitUntil_first {line after : Line} {deadline instant : Nat}
    {follow : Line → Round × Line} {ended : Round}
    (h : waitUntil line deadline (some instant) follow = (ended, after)) :
    (∃ firing ∈ line.interrupt.bind Signal.firesAt, firing ≤ deadline ∧ firing ≤ instant ∧
      ended = .interrupted ∧ after = line.advanceTo firing) ∨
    ((∀ firing ∈ line.interrupt.bind Signal.firesAt, deadline < firing) ∧ deadline ≤ instant ∧
      ended = .deadline ∧ after = line.advanceTo deadline) ∨
    ((∀ firing ∈ line.interrupt.bind Signal.firesAt, instant < firing) ∧ instant < deadline ∧
      follow (line.advanceTo instant) = (ended, after)) := by
  by_cases fired : line.interruptedBy (min deadline instant) = true
  · have won : winner line deadline (some instant) = .interrupt := if_pos fired
    rw [waitUntil, won] at h
    obtain ⟨firing, fires, early, now⟩ := exists_firing fired
    cases h
    exact .inl ⟨firing, fires, by omega, by omega, rfl, by rw [now]⟩
  · have won : winner line deadline (some instant) =
        if deadline ≤ instant then .deadline else .elapsed := if_neg fired
    have unfired :
        ∀ firing ∈ line.interrupt.bind Signal.firesAt, min deadline instant < firing := by
      intro firing fires
      apply Nat.lt_of_not_le
      intro early
      exact fired (interruptedBy_iff.mpr ⟨firing, fires, by omega⟩)
    by_cases late : deadline ≤ instant
    · rw [waitUntil, won, if_pos late] at h
      cases h
      refine .inr (.inl ⟨?_, late, rfl, rfl⟩)
      intro firing fires
      have := unfired firing fires
      omega
    · rw [waitUntil, won, if_neg late] at h
      refine .inr (.inr ⟨?_, by omega, h⟩)
      intro firing fires
      have := unfired firing fires
      omega

theorem waitUntil_endless {line after : Line} {deadline : Nat} {follow : Line → Round × Line}
    {ended : Round} (h : waitUntil line deadline none follow = (ended, after)) :
    (∃ firing ∈ line.interrupt.bind Signal.firesAt, firing ≤ deadline ∧ ended = .interrupted ∧
      after = line.advanceTo firing) ∨
    (ended = .deadline ∧ after = line.advanceTo deadline) := by
  by_cases fired : line.interruptedBy deadline = true
  · have won : winner line deadline none = .interrupt := if_pos fired
    rw [waitUntil, won] at h
    obtain ⟨firing, fires, early, now⟩ := exists_firing fired
    cases h
    exact .inl ⟨firing, fires, early, rfl, by rw [now]⟩
  · have won : winner line deadline none = .deadline := if_neg fired
    rw [waitUntil, won] at h
    cases h
    exact .inr ⟨rfl, rfl⟩

/-- A round waits until an instant of the clock, or is lost as soon as nothing else ends it. -/
theorem round_cases {replies : Replies} {queryId : String} {deadline pause : Nat}
    {line after : Line} {ended : Round}
    (h : round replies queryId deadline pause line = (ended, after)) :
    (line.now + line.clock.sleep line.now pause < line.clock.limit ∧
      waitUntil line deadline (some (line.now + line.clock.sleep line.now pause))
        (poll replies queryId deadline) = (ended, after)) ∨
    (line.clock.limit ≤ line.now + line.clock.sleep line.now pause ∧
      waitUntil line deadline (some line.now) (fun line => (.lost, line)) = (ended, after)) := by
  unfold round at h
  split at h
  · rename_i instant wakes
    obtain ⟨rfl, within⟩ := Clock.wake?_eq_some_iff.mp wakes
    exact .inl ⟨within, h⟩
  · rename_i endless
    exact .inr ⟨Clock.wake?_eq_none_iff.mp endless, h⟩

/-- How a round ends the loop; one that finds the query still running does not, if its answer can be
counted. -/
def Round.exit? (room : Nat) (last : Option Snapshot) : Round → Option LoopEnd
  | interrupted => some .interrupted
  | deadline => some (.deadline last)
  | lost => some .lost
  | answered (.error error) => some (.answered (.error error))
  | answered (.ok snapshot) =>
    if room = 0 then some .lost
    else if snapshot.isTerminal then some (.answered (.ok snapshot))
    else none

theorem Round.exit?_eq_none_iff {room : Nat} {last : Option Snapshot} {roundEnd : Round} :
    roundEnd.exit? room last = none ↔
      ∃ left snapshot, room = left + 1 ∧ roundEnd = .answered (.ok snapshot) ∧
        snapshot.isTerminal = false := by
  match roundEnd with
  | interrupted | deadline | lost | answered (.error _) =>
    refine ⟨nofun, ?_⟩
    rintro ⟨_, _, _, same, _⟩
    cases same
  | answered (.ok snapshot) =>
    cases room with
    | zero => simp [exit?]
    | succ room =>
      cases terminal : snapshot.isTerminal with
      | true =>
        simp only [exit?, terminal]
        refine ⟨nofun, ?_⟩
        rintro ⟨_, _, _, same, running⟩
        cases same
        exact nomatch terminal.symm.trans running
      | false =>
        simp only [exit?, terminal]
        exact ⟨fun _ => ⟨room, snapshot, rfl, rfl, terminal⟩, fun _ => rfl⟩

theorem loop_of_exit {replies : Replies} {queryId : String} {deadline interval room pause : Nat}
    {last : Option Snapshot} {line after : Line} {roundEnd : Round} {ended : LoopEnd}
    (ran : round replies queryId deadline pause line = (roundEnd, after))
    (exits : roundEnd.exit? room last = some ended) :
    loop replies queryId deadline interval room pause last line = (ended, after) := by
  unfold loop
  rw [ran]
  match roundEnd with
  | .interrupted | .deadline | .lost | .answered (.error _) =>
    cases exits
    rfl
  | .answered (.ok snapshot) =>
    cases room with
    | zero =>
      cases exits
      rfl
    | succ room =>
      simp only [Round.exit?, Nat.succ_ne_zero, if_false] at exits ⊢
      split at exits
      · rename_i terminal
        cases exits
        rw [if_pos terminal]
      · cases exits

theorem loop_of_running {replies : Replies} {queryId : String}
    {deadline interval room pause : Nat} {last : Option Snapshot} {line middle : Line}
    {snapshot : Snapshot}
    (ran : round replies queryId deadline pause line = (.answered (.ok snapshot), middle))
    (running : snapshot.isTerminal = false) :
    loop replies queryId deadline interval (room + 1) pause last line =
      loop replies queryId deadline interval room interval (some snapshot) middle := by
  rw [loop, ran]
  simp only [running]
  rfl

/-- The loop is left with a round, or goes on with another after one that finds the query still
running. -/
theorem loop_cases {replies : Replies} {queryId : String} {deadline interval room pause : Nat}
    {last : Option Snapshot} {line after : Line} {ended : LoopEnd}
    (h : loop replies queryId deadline interval room pause last line = (ended, after)) :
    (∃ roundEnd, round replies queryId deadline pause line = (roundEnd, after) ∧
      roundEnd.exit? room last = some ended) ∨
    ∃ left snapshot middle, room = left + 1 ∧
      round replies queryId deadline pause line = (.answered (.ok snapshot), middle) ∧
      snapshot.isTerminal = false ∧
      loop replies queryId deadline interval left interval (some snapshot) middle =
        (ended, after) := by
  generalize ran : round replies queryId deadline pause line = result
  obtain ⟨roundEnd, middle⟩ := result
  cases exits : roundEnd.exit? room last with
  | some other =>
    rw [loop_of_exit ran exits] at h
    cases h
    exact .inl ⟨roundEnd, rfl, exits⟩
  | none =>
    obtain ⟨left, snapshot, rfl, rfl, running⟩ := Round.exit?_eq_none_iff.mp exits
    rw [loop_of_running ran running] at h
    exact .inr ⟨left, snapshot, middle, rfl, rfl, running, h⟩

end RemoteQuery.Polling
