import RemoteQuery.Proofs.GivingUp

/-!
# Queries that stay running

A loop whose every poll finds the query running goes on until its deadline, poll by poll, as long as
it can count the answers; when it cannot it is lost.
-/
namespace RemoteQuery.Polling

/-- Every answer that is still to come comes at once and finds the query running, and nothing
interrupts the loop. -/
structure Idles (replies : Replies) (queryId : String) (deadline : Nat) (line : Line) : Prop where
  unfired : line.interruptedBy deadline = false
  running : ∀ index, line.polled ≤ index → ∃ reply snapshot, replies index = some reply ∧
    reply.delay = 0 ∧ (reply.interrupts = true → line.interrupt = none) ∧
    snapshotOf queryId reply.result = .ok snapshot ∧ snapshot.isTerminal = false

theorem Idles.round {replies : Replies} {queryId : String} {deadline pause : Nat} {line : Line}
    (h : Idles replies queryId deadline line) (within : deadline < line.clock.limit)
    (due : line.now + line.clock.sleep line.now pause < deadline) :
    ∃ snapshot after,
      round replies queryId deadline pause line = (.answered (.ok snapshot), after) ∧
      snapshot.isTerminal = false ∧ after.now = line.now + line.clock.sleep line.now pause ∧
      after.clock = line.clock ∧ after.polled = line.polled + 1 ∧
      Idles replies queryId deadline after := by
  obtain ⟨reply, snapshot, found, prompt, quiet, answer, running⟩ :=
    h.running line.polled (Nat.le_refl _)
  generalize wakes : line.now + line.clock.sleep line.now pause = instant at due ⊢
  have waits : line.clock.wake? line.now pause = some instant :=
    Clock.wake?_eq_some_iff.mpr ⟨wakes.symm, Nat.lt_trans due within⟩
  have unfired : line.interruptedBy (min deadline instant) = false := by
    cases fired : line.interruptedBy (min deadline instant) with
    | false => rfl
    | true =>
      obtain ⟨signal, held, fires⟩ := Line.interruptedBy_iff_firedBy.mp fired
      have late := Line.interruptedBy_iff_firedBy.mpr
        ⟨signal, held, Signal.firedBy_mono (Nat.min_le_left deadline _) fires⟩
      rw [h.unfired] at late
      cases late
  have won : winner line deadline (some instant) = .elapsed := by
    rw [winner]
    simp only [Option.map_some, Option.getD_some, unfired]
    exact if_neg (Nat.not_le.mpr due)
  let after : Line :=
    { line.advanceTo instant with polled := line.polled + 1 }.begin (.getQueryExecution queryId)
      reply.interrupts
  have kept : after.interrupt = line.interrupt := by
    change line.interrupt.map _ = _
    cases fires : reply.interrupts with
    | false => exact Option.map_id'
    | true => rw [quiet fires]; rfl
  refine ⟨snapshot, after, ?_, running, Nat.max_eq_right (by omega), rfl, rfl, ?_, ?_⟩
  · rw [Polling.round, waits]
    simp only
    rw [waitUntil, won]
    simp only [Option.getD_some]
    rw [poll]
    simp only [Line.advanceTo, found, prompt, if_true, answer, Option.map_some, Option.getD_some]
    rfl
  · rw [Line.interruptedBy, kept]
    exact h.unfired
  · intro index later
    obtain ⟨reply, snapshot, found, prompt, quiet, rest⟩ :=
      h.running index (Nat.le_of_succ_le later)
    exact ⟨reply, snapshot, found, prompt, fun fires => kept.trans (quiet fires), rest⟩

/-- So many polls are made, all of them a wait apart, unless the loop is lost. -/
theorem Idles.polls {replies : Replies} {queryId : String}
    {deadline interval wait room pause : Nat} {last : Option Snapshot} {line after : Line}
    {ended : LoopEnd} (count : Nat) (h : Idles replies queryId deadline line)
    (within : deadline < line.clock.limit)
    (even : ∀ now < deadline, line.clock.sleep now interval = wait)
    (pending : ∀ snapshot ∈ last, snapshot.isTerminal = false)
    (due : line.now + line.clock.sleep line.now pause + count * wait < deadline + wait)
    (ran : loop replies queryId deadline interval room pause last line = (ended, after)) :
    ended = .lost ∨ line.polled + count ≤ after.polled := by
  induction count generalizing room pause last line with
  | zero =>
    obtain ⟨polls, _, reaches, _⟩ := loop_runs ran pending
    rw [reaches.polled]
    omega
  | succ count ih =>
    rw [Nat.succ_mul] at due
    obtain ⟨snapshot, middle, here, running, now, clock, polled, idles⟩ := h.round within
      (show line.now + line.clock.sleep line.now pause < deadline by omega)
    cases room with
    | zero =>
      rw [loop_of_exit here rfl] at ran
      cases ran
      exact .inl rfl
    | succ room =>
      rw [loop_of_running here running] at ran
      have spaced : middle.clock.sleep middle.now interval = wait := by
        rw [clock]
        exact even _ (by omega)
      have rest := ih idles (by rwa [clock]) (by rwa [clock]) (by rintro _ ⟨⟩; exact running)
        (by rw [spaced]; omega) ran
      exact rest.imp_right fun _ => by omega

/-- The loop is lost if more polls are due than it can count the answers of. -/
theorem Idles.lost {replies : Replies} {queryId : String} {deadline interval wait room pause : Nat}
    {last : Option Snapshot} {line : Line} (h : Idles replies queryId deadline line)
    (within : deadline < line.clock.limit)
    (even : ∀ now < deadline, line.clock.sleep now interval = wait)
    (due : line.now + line.clock.sleep line.now pause + room * wait < deadline) :
    (loop replies queryId deadline interval room pause last line).1 = .lost := by
  induction room generalizing pause last line with
  | zero =>
    obtain ⟨snapshot, middle, here, _⟩ := h.round within
      (show line.now + line.clock.sleep line.now pause < deadline by omega)
    rw [loop_of_exit here rfl]
  | succ room ih =>
    rw [Nat.succ_mul] at due
    obtain ⟨snapshot, middle, here, running, now, clock, _, idles⟩ := h.round within
      (show line.now + line.clock.sleep line.now pause < deadline by omega)
    have spaced : middle.clock.sleep middle.now interval = wait := by
      rw [clock]
      exact even _ (by omega)
    rw [loop_of_running here running]
    exact ih idles (by rwa [clock]) (by rwa [clock]) (by rw [spaced]; omega)

/-- A line on which every poll finds the query running. -/
def runningLine : Line :=
  { pages := []
    service := { promptService with
      execution := fun _ _ =>
        { result := .ok {
            queryExecution := some { status := some { state := some "RUNNING" } } } } } }

theorem runningLine_idles (deadline : Nat) :
    Idles (serviceReplies runningLine.service "q-7") "q-7" deadline runningLine :=
  ⟨rfl, fun _ _ => ⟨_, _, rfl, rfl, nofun, rfl, rfl⟩⟩

/-- An interval of a millisecond and a timeout with room for more polls than can be counted. -/
theorem runningLine_lost :
    pollUntilTerminal? runningLine "q-7"
      { interval := ⟨1000000⟩, timeout := ⟨Nat.pow 2 32 * 1000000⟩ } = none := by
  have timeout : runningLine.deadline? ⟨Nat.pow 2 32 * 1000000⟩ = some (Nat.pow 2 32) :=
    Line.deadline?_eq_some_iff.mpr (by decide)
  have even : ∀ now < Nat.pow 2 32, runningLine.clock.sleep now 1 = 1 := fun now _ => by
    rw [Clock.sleep]
    split <;> rfl
  have lost := @Idles.lost _ _ _ 1 1 mostAnswers 0 none _ (runningLine_idles (Nat.pow 2 32))
    (by decide) even (by decide)
  rw [pollUntilTerminal?, timeout, Option.bind_some, pollUntil?]
  have interval : (⟨1000000⟩ : Duration).ticks = 1 := by decide
  simp only [interval]
  generalize loop _ _ _ _ _ _ _ _ = found at lost
  obtain ⟨ended, after⟩ := found
  cases lost
  rfl

end RemoteQuery.Polling
