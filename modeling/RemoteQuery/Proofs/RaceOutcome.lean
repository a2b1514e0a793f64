import RemoteQuery.Proofs.IdlePolls
import RemoteQuery.Proofs.PollRace

/-!
# The outcome of the race

Polling has the outcome of its race and makes the calls of its schedule, if the deadline is an
instant of the clock and the loop stays within its limits. Nothing is said of a signal that is fired
by a reply of the service.
-/
namespace RemoteQuery.Polling

/-- The outcome of polling is the one of the race, and the calls are the ones of its schedule. -/
structure Race.Governs (race : Race) (queryId : String) (cancels : Bool) (before : Line)
    (result : Except Error PollOutcome) (count : Nat) (after : Line) : Prop where
  makes : race.Makes count
  interrupted : race.Interrupts → ∃ firing ∈ race.firing, ∃ state follow,
    result = .ok (.interrupted state) ∧
    after.calls = follow ++ (race.polls queryId count ++ before.calls) ∧
    follow.getLast? =
      if cancels then some ⟨max race.start firing, .stopQuery queryId⟩ else none
  answered : ¬ race.Interrupts → ∀ index, race.First index → race.ends index < race.deadline →
    result = (race.answer index).map .terminal ∧ after.now = race.ends index ∧
    after.calls = race.polls queryId count ++ before.calls
  timedOut : ¬ race.Interrupts →
    (∀ index, race.First index → race.deadline ≤ race.ends index) →
    ∃ last, race.Last last ∧ result = .ok (.timedOut last) ∧
      after.calls =
        ⟨race.deadline, .stopQuery queryId⟩ :: (race.polls queryId count ++ before.calls)

theorem Race.Interrupts.not_of_unfired {race : Race}
    (unfired : ∀ firing ∈ race.firing, race.deadline < firing) : ¬ race.Interrupts := by
  rintro ⟨firing, fires, early, _⟩
  have := unfired firing fires
  omega

theorem settle?_governs {race : Race} {queryId : String} {policy : PollPolicy} {before line : Line}
    {ended : LoopEnd} (h : LoopRaces race queryId before ended line) :
    ∃ result count after, settle? queryId policy (ended, line) = some (result, after) ∧
      race.Governs queryId policy.cancelOnInterrupt before result count after := by
  cases h with
  | @interrupted firing count _ fires early first makes stands now =>
    have interrupts : race.Interrupts := ⟨firing, fires, early, first⟩
    have governs (result : Except Error PollOutcome) (after : Line)
        (stopped : ∃ state follow, result = .ok (.interrupted state) ∧
          after.calls = follow ++ (race.polls queryId count ++ before.calls) ∧
          follow.getLast? = if policy.cancelOnInterrupt
            then some ⟨max race.start firing, .stopQuery queryId⟩ else none) :
        race.Governs queryId policy.cancelOnInterrupt before result count after :=
      ⟨makes, fun _ => ⟨firing, fires, stopped⟩, fun quiet => (quiet interrupts).elim,
        fun quiet => (quiet interrupts).elim⟩
    rw [settle?]
    cases strict : policy.cancelOnInterrupt with
    | false =>
      rw [strict] at governs
      exact ⟨_, count, _, rfl, governs _ _ ⟨none, [], rfl, stands.noted, rfl⟩⟩
    | true =>
      rw [strict] at governs
      generalize stopping : stopInterrupted line queryId = stopped
      obtain ⟨outcome, after⟩ := stopped
      refine ⟨.ok outcome, count, after, rfl, governs _ _ ?_⟩
      rcases stopInterrupted_reaches stopping with
        ⟨_, _, rfl, reaches⟩ | ⟨_, state, _, rfl, reaches⟩
      all_goals
        have noted := reaches.noted
        rw [now, stands.noted] at noted
        exact ⟨_, _, rfl, noted, rfl⟩
  | @deadline last count _ unfired late makes latest stands now =>
    have quiet := Race.Interrupts.not_of_unfired unfired
    refine ⟨_, count, _, rfl, makes, fun interrupts => (quiet interrupts).elim, ?_, ?_⟩
    · intro _ index first inTime
      have := late index first
      omega
    · intro _ _
      refine ⟨last, latest, rfl, ?_⟩
      have stop := (line.reaches_stopQuery queryId).noted
      rw [now, stands.noted] at stop
      exact stop
  | @answered index _ first inTime unfired makes stands now =>
    have quiet : ¬ race.Interrupts := by
      rintro ⟨firing, fires, _, before⟩
      have := unfired firing fires
      have := before index first
      omega
    have settled : settle? queryId policy (.answered (race.answer index), line) =
        some ((race.answer index).map .terminal, line) := by
      cases race.answer index <;> rfl
    refine ⟨_, index + 1, _, settled, makes, fun interrupts => (quiet interrupts).elim, ?_, ?_⟩
    · intro _ other decisive _
      obtain rfl := first.unique decisive
      exact ⟨rfl, now, stands.noted⟩
    · intro _ late
      have := late index first
      omega

/-- Polling runs as its schedule says. A poll follows the answer to the one before it by the
interval, or by thirty years if the interval is longer and the timer does not hold it. -/
theorem pollUntilTerminal?_governed {line : Line} {queryId : String} {policy : PollPolicy}
    {deadline : Nat} (quiet : Quiet line queryId)
    (timeout : line.deadline? policy.timeout = some deadline)
    (limits : (raceOn line queryId policy.interval.ticks deadline).WithinLimits line.clock) :
    (∃ result count after, pollUntilTerminal? line queryId policy = some (result, after) ∧
      (raceOn line queryId policy.interval.ticks deadline).Governs queryId
        policy.cancelOnInterrupt line result count after) ∧
    ∀ index, let race := raceOn line queryId policy.interval.ticks deadline
      race.starts (index + 1) = race.ends index + policy.interval.ticks ∨
        line.clock.holds (race.ends index) policy.interval.ticks = false ∧
        Clock.fallback < policy.interval.ticks ∧
        race.starts (index + 1) = race.ends index + Clock.fallback := by
  obtain ⟨instant, held⟩ := Line.deadline?_eq_some_iff.mp timeout
  have late : line.now ≤ deadline := by
    rw [instant]
    exact Nat.le_add_right _ _
  constructor
  · generalize ran : loop (serviceReplies line.service queryId) queryId deadline
      policy.interval.ticks mostAnswers 0 none line = found
    obtain ⟨ended, middle⟩ := found
    have stands : Stands (raceOn line queryId policy.interval.ticks deadline) queryId line 0 line :=
      ⟨rfl, rfl, rfl, rfl⟩
    have due : line.now + line.clock.sleep line.now 0 = line.now := by rw [Clock.sleep_zero]; rfl
    have raced := loop_races rfl quiet limits stands due (show line.now < line.clock.limit by omega)
      late (.inl rfl) (.none _) (Nat.zero_add mostAnswers) ran
    obtain ⟨result, count, after, settled, governs⟩ := @settle?_governs _ _ policy _ _ _ raced
    refine ⟨result, count, after, ?_, governs⟩
    rw [pollUntilTerminal?, timeout, Option.bind_some, pollUntil?, ran, settled]
  · intro index race
    rw [raceOn_starts_succ]
    exact (line.clock.sleep_cases (race.ends index) policy.interval.ticks).imp
      (congrArg (race.ends index + ·))
      fun long => ⟨long.1, long.2.1, congrArg (race.ends index + ·) long.2.2⟩

/-- A line on which the first poll finds the query running, and any later one that it succeeded. -/
def turningLine : Line :=
  { pages := []
    service := { promptService with
      execution := fun index queryId =>
        if index = 0 then
          { result := .ok {
              queryExecution := some { status := some { state := some "RUNNING" } } } }
        else promptService.execution index queryId } }

theorem turningLine_first (interval deadline : Nat) :
    (raceOn turningLine "q-7" interval deadline).First 1 := by
  constructor
  · rfl
  · intro earlier before decides
    obtain rfl : earlier = 0 := by omega
    cases decides

theorem turningLine_limits :
    (raceOn turningLine "q-7" 1000 3600000).WithinLimits turningLine.clock := by
  constructor
  · intro index goesOn
    have inTime : (raceOn turningLine "q-7" 1000 3600000).ends index < 3600000 := goesOn.inTime
    have far : 3600000 + 1000 < turningLine.clock.limit := by decide
    rw [raceOn_starts_succ]
    exact Nat.lt_of_le_of_lt
      (Nat.add_le_add (Nat.le_of_lt inTime) (turningLine.clock.sleep_le _ 1000)) far
  · intro index comes
    have few := comes.2.2 1 (turningLine_first _ _)
    have many : 2 < mostAnswers := by decide
    omega

theorem pollUntilTerminal?_governed_turning :
    (raceOn turningLine "q-7" 1000 3600000).WithinLimits turningLine.clock ∧
    ∃ result count after, pollUntilTerminal? turningLine "q-7" {} = some (result, after) ∧
      (raceOn turningLine "q-7" 1000 3600000).Governs "q-7" true turningLine result count after ∧
      after.now = 1000 := by
  have quiet : Quiet turningLine "q-7" := by
    intro index _
    change (if index = 0 then _ else _ : Reply _ _).interrupts = false
    split <;> rfl
  have timeout : turningLine.deadline? (.ofSeconds 3600) = some 3600000 :=
    Line.deadline?_eq_some_iff.mpr (by decide)
  have interval : ({} : PollPolicy).interval.ticks = 1000 := by decide
  obtain ⟨result, count, after, ran, governs⟩ :=
    (@pollUntilTerminal?_governed turningLine "q-7" {} 3600000 quiet timeout
      (by rw [interval]; exact turningLine_limits)).1
  rw [interval] at governs
  have unfired : ¬ (raceOn turningLine "q-7" 1000 3600000).Interrupts :=
    Race.Interrupts.not_of_unfired (by intro firing fired; cases fired)
  obtain ⟨_, now, _⟩ := governs.answered unfired 1 (turningLine_first _ _) (by decide)
  exact ⟨turningLine_limits, result, count, after, ran, governs, now⟩

/-- The race in which each poll follows the answer to the one before it by the whole interval. -/
def Race.even (race : Race) (interval : Nat) : Race := { race with pause := fun _ => interval }

theorem Race.first_even {race : Race} {interval index : Nat} :
    (race.even interval).First index ↔ race.First index := Iff.rfl

/-- The whole interval is not kept by one for which there is no instant of the clock, after which a
poll comes too soon. A timeout that ends beyond the clock has no outcome, and nor have more polls
than can be counted. -/
theorem not_governed_beyond_bounds :
    (¬ ∃ result count after,
      pollUntilTerminal? turningLine "q-7" { timeout := .ofSeconds 9223372036854775808 } =
        some (result, after) ∧
      ((raceOn turningLine "q-7" 1000 (Duration.ofSeconds 9223372036854775808).ticks).even
        1000).Governs "q-7" true turningLine result count after) ∧
    (¬ ∃ result count after,
      pollUntilTerminal? turningLine "q-7"
        { interval := .ofSeconds 18446744073709551615, timeout := .ofSeconds 1261440000 } =
        some (result, after) ∧
      ((raceOn turningLine "q-7" (Duration.ofSeconds 18446744073709551615).ticks
        (Duration.ofSeconds 1261440000).ticks).even
          (Duration.ofSeconds 18446744073709551615).ticks).Governs
        "q-7" true turningLine result count after) ∧
    ¬ ∃ result count after,
      pollUntilTerminal? runningLine "q-7"
        { interval := ⟨1000000⟩, timeout := ⟨Nat.pow 2 32 * 1000000⟩ } = some (result, after) ∧
      ((raceOn runningLine "q-7" 1 (Nat.pow 2 32)).even 1).Governs
        "q-7" true runningLine result count after := by
  refine ⟨?_, ?_, ?_⟩
  · rintro ⟨result, count, after, ran, _⟩
    have beyond : turningLine.deadline? (.ofSeconds 9223372036854775808) = none :=
      Line.deadline?_eq_none_iff.mpr (by decide)
    rw [pollUntilTerminal?, beyond] at ran
    cases ran
  · rintro ⟨result, count, after, ran, governs⟩
    have within : turningLine.deadline? (.ofSeconds 1261440000) = some 1261440000000 :=
      Line.deadline?_eq_some_iff.mpr (by decide)
    rw [pollUntilTerminal?, within, Option.bind_some] at ran
    have terminal : (pollUntil? turningLine "q-7"
        { interval := .ofSeconds 18446744073709551615, timeout := .ofSeconds 1261440000 }
        1261440000000).map Prod.fst =
      some (.ok (.terminal { queryId := "q-7", queryText := "", state := .succeeded })) := rfl
    rw [ran] at terminal
    obtain ⟨last, _, timedOut, _⟩ := governs.timedOut
      (Race.Interrupts.not_of_unfired (by intro firing fired; cases fired)) (by
        intro index first
        obtain rfl := (Race.first_even.mp first).unique (turningLine_first _ _)
        decide)
    rw [timedOut] at terminal
    cases terminal
  · rintro ⟨result, count, after, ran, _⟩
    rw [runningLine_lost] at ran
    cases ran

end RemoteQuery.Polling
