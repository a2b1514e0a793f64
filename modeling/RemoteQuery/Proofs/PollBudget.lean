import RemoteQuery.Proofs.IdlePolls
import RemoteQuery.Proofs.PolicyTimes
import RemoteQuery.Proofs.PollTime

/-!
# How many polls a loop makes

A loop makes as many polls at most as it takes of its waits to last as long as its timeout, and just
so many if every answer comes at once and finds the query running. This takes an interval that is
longer than nothing, which is what connections make sure of for the cursors that they make. An
interval that the timer does not hold counts as thirty years.
-/
namespace RemoteQuery.Polling

/-- What follows a loop: nothing, or a stop, or a stop and a further look. -/
def FollowUp (queryId : String) (calls : List TimedCall) : Prop :=
  calls.map TimedCall.call ∈
    [[], [.stopQuery queryId], [.getQueryExecution queryId, .stopQuery queryId]]

theorem settle?_followUp {queryId : String} {policy : PollPolicy} {ended : LoopEnd}
    {line after : Line} {result : Except Error PollOutcome}
    (h : settle? queryId policy (ended, line) = some (result, after)) :
    ∃ calls, after.calls = calls ++ line.calls ∧ FollowUp queryId calls := by
  match ended with
  | .answered (.ok _) | .answered (.error _) =>
    cases h
    exact ⟨[], rfl, .head _⟩
  | .deadline last =>
    cases h
    exact ⟨_, (line.reaches_stopQuery queryId).noted, .tail _ (.head _)⟩
  | .lost => cases h
  | .interrupted =>
    simp only [settle?] at h
    split at h
    · generalize stopping : stopInterrupted line queryId = stopped at h
      obtain ⟨outcome, last⟩ := stopped
      cases h
      rcases stopInterrupted_reaches stopping with ⟨_, _, _, reaches⟩ | ⟨_, _, _, _, reaches⟩
      · exact ⟨_, reaches.noted, .tail _ (.head _)⟩
      · exact ⟨_, reaches.noted, .tail _ (.tail _ (.head _))⟩
    · cases h
      exact ⟨[], rfl, .head _⟩

/-- How many intervals it takes to last as long as the timeout. -/
def intervalsIn (timeout interval : Nat) : Nat := (timeout + interval - 1) / interval

theorem le_intervalsIn_mul (timeout : Nat) {interval : Nat} (positive : 1 ≤ interval) :
    timeout ≤ intervalsIn timeout interval * interval := by
  have split := Nat.div_add_mod (timeout + interval - 1) interval
  have rest := Nat.mod_lt (timeout + interval - 1) positive
  rw [intervalsIn, Nat.mul_comm]
  omega

theorem intervalsIn_mul_lt (timeout : Nat) {interval : Nat} (positive : 1 ≤ interval) :
    intervalsIn timeout interval * interval < timeout + interval := by
  have split := Nat.div_mul_le_self (timeout + interval - 1) interval
  rw [intervalsIn]
  omega

/-- The loop on a line is left in time, with these polls. -/
structure Terminates (replies : Replies) (queryId : String) (policy : PollPolicy) (deadline : Nat)
    (line : Line) (polls : List TimedCall) (ended : LoopEnd) (after : Line) : Prop where
  leaves : ∃ rounds ≤ polls.length + 1,
    Leaves replies queryId deadline policy.interval.ticks rounds mostAnswers 0 none line ended after
  inTime : line.now ≤ after.now ∧ after.now ≤ deadline
  only : OnlyPolls queryId polls
  noted : after.calls = polls ++ line.calls
  bounded : polls.length ≤
    intervalsIn policy.timeout.ticks (min policy.interval.ticks Clock.fallback)
  /-- Where all waits are alike, as they are if the timer holds the interval. -/
  even : ∀ wait, 1 ≤ wait →
    (∀ now < deadline, line.clock.sleep now policy.interval.ticks = wait) →
    polls.length ≤ intervalsIn policy.timeout.ticks wait ∧
      (Idles replies queryId deadline line → ended ≠ .lost →
        polls.length = intervalsIn policy.timeout.ticks wait)
  /-- There is a result unless more answers come than can be counted or the clock is at its end. -/
  lost : ended = .lost → mostAnswers < polls.length ∨
    ∃ now < deadline, line.clock.limit ≤ now + line.clock.sleep now policy.interval.ticks
  settled : ∀ result later, settle? queryId policy (ended, after) = some (result, later) →
    ∃ more, later.calls = more ++ after.calls ∧ FollowUp queryId more

theorem Lasts.length_le {replies : Replies} {queryId : String} {interval room shortest : Nat}
    {last : Option Snapshot} {line after : Line} {timeout : Duration} {polls : List TimedCall}
    {ended : LoopEnd}
    (h : Lasts replies queryId (line.now + timeout.ticks) interval room 0 last line polls ended
      after) (positive : 1 ≤ shortest)
    (short : ∀ now < line.now + timeout.ticks, shortest ≤ line.clock.sleep now interval) :
    polls.length ≤ intervalsIn timeout.ticks shortest := by
  have enough := le_intervalsIn_mul timeout.ticks positive
  apply h.bounded shortest short
  omega

theorem loop_terminates {line : Line} {queryId : String} {policy : PollPolicy} {deadline : Nat}
    (replies : Replies) (positive : policy.interval.isZero = false)
    (timeout : line.deadline? policy.timeout = some deadline) :
    ∃ polls ended after,
      Terminates replies queryId policy deadline line polls ended after ∧
      loop replies queryId deadline policy.interval.ticks mostAnswers 0 none line =
        (ended, after) := by
  have interval : 1 ≤ policy.interval.ticks := by
    apply Nat.one_le_iff_ne_zero.mpr
    intro none
    rw [Duration.ticks_eq_zero_iff, positive] at none
    cases none
  have thirty : 1 ≤ Clock.fallback := by decide
  obtain ⟨rfl, held⟩ := Line.deadline?_eq_some_iff.mp timeout
  generalize ran : loop replies queryId (line.now + policy.timeout.ticks) policy.interval.ticks
    mostAnswers 0 none line = found
  obtain ⟨ended, after⟩ := found
  obtain ⟨polls, lasts⟩ := loop_lasts (Nat.le_add_right _ _) ran
  refine ⟨polls, ended, after, ⟨lasts.leaves, ⟨lasts.reaches.now, lasts.inTime⟩, lasts.only,
    lasts.reaches.noted, ?_, ?_, ?_, fun result later => settle?_followUp⟩, rfl⟩
  · exact lasts.length_le (Nat.le_min.mpr ⟨interval, thirty⟩) fun now _ => line.clock.le_sleep now _
  · intro wait atLeast even
    have most := lasts.length_le atLeast fun now due => Nat.le_of_eq (even now due).symm
    refine ⟨most, ?_⟩
    intro idles kept
    have few := intervalsIn_mul_lt policy.timeout.ticks atLeast
    have atOnce := line.clock.sleep_zero line.now
    have pending : ∀ snapshot ∈ (none : Option Snapshot), snapshot.isTerminal = false := by simp
    have made := (idles.polls (intervalsIn policy.timeout.ticks wait) held even pending (by omega)
      ran).resolve_left kept
    rw [lasts.reaches.polled] at made
    have counts : countOf .getQueryExecution polls ≤ polls.length := List.countP_le_length
    omega
  · intro lost
    refine (lasts.lost lost).imp_right ?_
    rintro ⟨now, due, asked, rfl | rfl, endless⟩
    · rw [Clock.sleep_zero] at endless
      omega
    · exact ⟨now, due, endless⟩

/-- Polling comes to an end in time, whatever the service answers and whether it answers at all, and
the cursors of a connection poll with times for which this is so. -/
theorem polling_terminates :
    (∀ {line : Line} {queryId : String} {policy : PollPolicy} {deadline : Nat} (replies : Replies),
      policy.interval.isZero = false → line.deadline? policy.timeout = some deadline →
      ∃ polls ended after,
        Terminates replies queryId policy deadline line polls ended after ∧
        (replies = serviceReplies line.service queryId →
          pollUntilTerminal? line queryId policy = settle? queryId policy (ended, after))) ∧
    ∀ {connection : Connection} {line : Line} {fresh cursor : QueryCursor},
      connection.params.Obtained → connection.Makes line fresh → fresh.Later cursor →
      cursor.PollsWithTime := by
  refine ⟨?_, fun obtained makes later => later.pollsWithTime obtained makes⟩
  intro line queryId policy deadline replies positive timeout
  obtain ⟨polls, ended, after, terminates, looped⟩ := loop_terminates replies positive timeout
  refine ⟨polls, ended, after, terminates, ?_⟩
  rintro rfl
  rw [pollUntilTerminal?, timeout, Option.bind_some, pollUntil?, looped]

theorem polling_terminates_running :
    (∃ polls ended after,
      Terminates (serviceReplies runningLine.service "q-7") "q-7" { timeout := .ofSeconds 5 } 5000
        runningLine polls ended after ∧
      polls.length = 5 ∧
      pollUntilTerminal? runningLine "q-7" { timeout := .ofSeconds 5 } =
        settle? "q-7" { timeout := .ofSeconds 5 } (ended, after)) ∧
    QueryCursor.plainCursor.PollsWithTime := by
  constructor
  · have timeout : runningLine.deadline? (.ofSeconds 5) = some 5000 :=
      Line.deadline?_eq_some_iff.mpr (by decide)
    obtain ⟨polls, ended, after, terminates, ran⟩ :=
      @polling_terminates.1 runningLine "q-7" { timeout := .ofSeconds 5 } 5000
        (serviceReplies runningLine.service "q-7") rfl timeout
    have interval : ({} : PollPolicy).interval.ticks = 1000 := by decide
    have lasting : (Duration.ofSeconds 5).ticks = 5000 := by decide
    have spaced : ∀ now, runningLine.clock.sleep now 1000 = 1000 := fun now => by
      rw [Clock.sleep]
      split <;> decide
    have even := terminates.even 1000 (by decide)
    simp only [interval, lasting] at even
    obtain ⟨most, idle⟩ := even fun now _ => spaced now
    have count : intervalsIn 5000 1000 = 5 := by decide
    rw [count] at most idle
    have kept : ended ≠ .lost := by
      intro lost
      rcases terminates.lost lost with many | ⟨now, due, endless⟩
      · have bound : 5 < mostAnswers := by decide
        omega
      · simp only [interval, spaced] at endless
        have far : 5000 + 1000 < runningLine.clock.limit := by decide
        omega
    exact ⟨polls, ended, after, terminates, idle (runningLine_idles 5000) kept, ran rfl⟩
  · have obtained : QueryCursor.plainConnection.params.Obtained :=
      .inl ⟨QueryCursor.plainConnection.params.settings, rfl⟩
    exact polling_terminates.2 obtained
      (@Connection.makes_cursor _ QueryCursor.promptLine _ rfl) .refl

/-- A timeout that ends beyond the clock has no outcome, an interval for which there is no instant
of the clock allows more polls than its length does, and more polls than can be counted have no
outcome either. -/
theorem not_terminates_beyond_bounds :
    (¬ ∃ result,
      pollUntilTerminal? QueryCursor.promptLine "q-7"
        { timeout := .ofSeconds 9223372036854775808 } = some result) ∧
    (¬ ∃ polls ended after,
      Terminates (serviceReplies runningLine.service "q-7") "q-7"
        { interval := .ofSeconds 18446744073709551615, timeout := .ofSeconds 1261440000 }
        1261440000000 runningLine polls ended after ∧
      polls.length ≤ intervalsIn (Duration.ofSeconds 1261440000).ticks
        (Duration.ofSeconds 18446744073709551615).ticks) ∧
    ¬ ∃ result,
      pollUntilTerminal? runningLine "q-7"
        { interval := ⟨1000000⟩, timeout := ⟨Nat.pow 2 32 * 1000000⟩ } = some result := by
  refine ⟨?_, ?_, ?_⟩
  · rintro ⟨result, ran⟩
    have beyond : QueryCursor.promptLine.deadline? (.ofSeconds 9223372036854775808) = none :=
      Line.deadline?_eq_none_iff.mpr (by decide)
    rw [pollUntilTerminal?, beyond] at ran
    cases ran
  · rintro ⟨polls, ended, after, terminates, few⟩
    have single : intervalsIn (Duration.ofSeconds 1261440000).ticks
        (Duration.ofSeconds 18446744073709551615).ticks = 1 := by decide
    obtain ⟨rounds, _, leaves⟩ := terminates.leaves
    have made : (loop (serviceReplies runningLine.service "q-7") "q-7" 1261440000000
        (Duration.ofSeconds 18446744073709551615).ticks mostAnswers 0 none
        runningLine).2.calls.length = 2 := rfl
    rw [leaves.loop_eq, terminates.noted, List.length_append] at made
    change polls.length + 0 = 2 at made
    omega
  · rintro ⟨result, ran⟩
    rw [runningLine_lost] at ran
    cases ran

end RemoteQuery.Polling
