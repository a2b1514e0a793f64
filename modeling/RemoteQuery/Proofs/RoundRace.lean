import RemoteQuery.Proofs.PollSchedule
import RemoteQuery.Proofs.PollWaits

/-!
# Rounds of the race

A round waits for the next poll of the schedule and makes it, unless the signal or the deadline
comes first. Nothing is said of a signal that is fired by a reply of the service.
-/
namespace RemoteQuery.Polling

/-- The line on which the first polls of the schedule have been made. -/
structure Stands (race : Race) (queryId : String) (before : Line) (count : Nat) (line : Line) :
    Prop where
  polled : line.polled = before.polled + count
  clock : line.clock = before.clock
  interrupt : line.interrupt = before.interrupt
  noted : line.calls = race.polls queryId count ++ before.calls

theorem Stands.advanceTo {race : Race} {queryId : String} {before line : Line} {count : Nat}
    (h : Stands race queryId before count line) (instant : Nat) :
    Stands race queryId before count (line.advanceTo instant) :=
  ⟨h.polled, h.clock, h.interrupt, h.noted⟩

theorem Stands.begin {race : Race} {queryId : String} {before line : Line} {count : Nat}
    (h : Stands race queryId before count line) (now : line.now = race.starts count) :
    Stands race queryId before (count + 1)
      ({ line with polled := line.polled + 1 }.begin (.getQueryExecution queryId) false) where
  polled := congrArg (· + 1) h.polled
  clock := h.clock
  interrupt := by
    rw [← h.interrupt]
    exact Option.map_id'
  noted := by
    change ⟨line.now, .getQueryExecution queryId⟩ :: line.calls = _
    rw [now, h.noted]
    rfl

/-- What comes of the round of a poll. A round that is cut off has made its poll if the poll was due
before. -/
inductive RoundRaces (race : Race) (queryId : String) (before : Line) (index : Nat) :
    Round → Line → Prop
  | interrupted {firing count : Nat} {line : Line} (fires : firing ∈ race.firing)
      (early : firing ≤ race.deadline) (first : firing ≤ race.ends index)
      (made : count = index ∨ count = index + 1 ∧ race.Goes index)
      (stop : firing ≤ race.starts count) (stands : Stands race queryId before count line)
      (now : line.now = max race.start firing) :
      RoundRaces race queryId before index .interrupted line
  | deadline {count : Nat} {line : Line} (unfired : ∀ firing ∈ race.firing, race.deadline < firing)
      (late : race.deadline ≤ race.ends index)
      (made : count = index ∨ count = index + 1 ∧ race.Goes index)
      (stop : race.deadline ≤ race.starts count) (stands : Stands race queryId before count line)
      (now : line.now = race.deadline) : RoundRaces race queryId before index .deadline line
  | answered {line : Line} (inTime : race.ends index < race.deadline)
      (unfired : ∀ firing ∈ race.firing, race.ends index < firing)
      (stands : Stands race queryId before (index + 1) line) (now : line.now = race.ends index) :
      RoundRaces race queryId before index (.answered (race.answer index)) line

theorem poll_races {before line after : Line} {queryId : String} {interval deadline index : Nat}
    {race : Race} {ended : Round} (same : race = raceOn before queryId interval deadline)
    (quiet : Quiet before queryId) (stands : Stands race queryId before index line)
    (now : line.now = race.starts index) (goes : race.Goes index)
    (h : poll (serviceReplies before.service queryId) queryId deadline line = (ended, after)) :
    RoundRaces race queryId before index ended after := by
  have started := stands.begin now
  have answer : race.answer index =
      snapshotOf queryId (before.service.execution line.polled queryId).result := by
    rw [same, stands.polled]
    rfl
  have delay : race.ends index =
      line.now + (before.service.execution line.polled queryId).delay := by
    rw [Race.ends, now, same, stands.polled]
    rfl
  have signal : before.interrupt.bind Signal.firesAt = race.firing := by
    rw [same]
    rfl
  have limit : race.deadline = deadline := by
    rw [same]
    rfl
  have begun : race.start ≤ line.now := by
    rw [now]
    exact race.starts_mono (Nat.zero_le index)
  have following : race.ends index ≤ race.starts (index + 1) :=
    race.ends_le_starts (Nat.lt_succ_self index)
  obtain ⟨early, unfired⟩ := goes
  have still := quiet line.polled (by rw [stands.polled]; omega)
  unfold poll at h
  simp only [serviceReplies, Option.map_some, Option.getD_some, still, ← answer] at h
  split at h
  · rename_i prompt
    rw [prompt, Nat.add_zero, now] at delay
    cases h
    exact .answered (delay ▸ early) (delay ▸ unfired) started (delay ▸ now)
  · change waitUntil _ deadline (some (line.now + _)) _ = _ at h
    rw [← delay, ← limit] at h
    rcases waitUntil_first h with ⟨firing, fires, first, inFlight, rfl, rfl⟩ |
      ⟨never, late, rfl, rfl⟩ | ⟨never, inTime, follow⟩
    · rw [started.interrupt, signal] at fires
      have later := unfired firing fires
      refine .interrupted fires first inFlight (.inr ⟨rfl, early, unfired⟩) (by omega)
        (started.advanceTo firing) ?_
      change max line.now firing = max race.start firing
      omega
    · rw [started.interrupt, signal] at never
      refine .deadline never late (.inr ⟨rfl, early, unfired⟩) (by omega)
        (started.advanceTo race.deadline) ?_
      change max line.now race.deadline = race.deadline
      omega
    · rw [started.interrupt, signal] at never
      cases follow
      refine .answered inTime never (started.advanceTo (race.ends index)) ?_
      change max line.now (race.ends index) = race.ends index
      omega

theorem round_races {before line after : Line} {queryId : String}
    {interval deadline pause index : Nat} {race : Race} {ended : Round}
    (same : race = raceOn before queryId interval deadline) (quiet : Quiet before queryId)
    (stands : Stands race queryId before index line)
    (due : line.now + line.clock.sleep line.now pause = race.starts index)
    (held : race.starts index < before.clock.limit) (inTime : line.now ≤ race.deadline)
    (passed : line.now = race.start ∨
      race.start ≤ line.now ∧ ∀ firing ∈ race.firing, line.now < firing)
    (h : round (serviceReplies before.service queryId) queryId deadline pause line =
      (ended, after)) : RoundRaces race queryId before index ended after := by
  have signal : line.interrupt.bind Signal.firesAt = race.firing := by
    rw [stands.interrupt, same]
    rfl
  have limit : race.deadline = deadline := by
    rw [same]
    rfl
  have within := race.starts_le_ends index
  rcases round_cases h with ⟨_, waits⟩ | ⟨lost, _⟩
  · rw [due, ← limit] at waits
    rcases waitUntil_first waits with ⟨firing, fires, first, inWait, rfl, rfl⟩ |
      ⟨never, late, rfl, rfl⟩ | ⟨never, early, follow⟩
    · rw [signal] at fires
      refine .interrupted fires first (by omega) (.inl rfl) inWait (stands.advanceTo firing) ?_
      change max line.now firing = max race.start firing
      rcases passed with same | ⟨begun, unfired⟩
      · rw [same]
      · have := unfired firing fires
        omega
    · rw [signal] at never
      refine .deadline never (by omega) (.inl rfl) late (stands.advanceTo race.deadline) ?_
      change max line.now race.deadline = race.deadline
      omega
    · rw [signal] at never
      rw [limit] at follow
      refine poll_races same quiet (stands.advanceTo (race.starts index)) ?_ ⟨early, never⟩ follow
      change max line.now (race.starts index) = race.starts index
      omega
  · rw [due, stands.clock] at lost
    omega

end RemoteQuery.Polling
