import RemoteQuery.Proofs.LostPolls
import RemoteQuery.Proofs.PollCalls

/-!
# How long a poll loop lasts

A loop is left by its deadline, whether answers come at all or not: whatever is waited for, the wait
ends then. Each poll but the first is at least the shortest wait after the one before, so that only
so many are made. The rounds are counted here, and left after finitely many of them.
-/
namespace RemoteQuery.Polling

/-- The loop is left after so many rounds. -/
inductive Leaves (replies : Replies) (queryId : String) (deadline interval : Nat) :
    (rounds room pause : Nat) → Option Snapshot → Line → LoopEnd → Line → Prop
  | left {room pause : Nat} {last : Option Snapshot} {line after : Line} {roundEnd : Round}
      {ended : LoopEnd} (ran : round replies queryId deadline pause line = (roundEnd, after))
      (exits : roundEnd.exit? room last = some ended) :
      Leaves replies queryId deadline interval 1 room pause last line ended after
  | again {rounds room pause : Nat} {last : Option Snapshot} {line middle after : Line}
      {snapshot : Snapshot} {ended : LoopEnd}
      (ran : round replies queryId deadline pause line = (.answered (.ok snapshot), middle))
      (running : snapshot.isTerminal = false)
      (onward : Leaves replies queryId deadline interval rounds room interval (some snapshot) middle
        ended after) :
      Leaves replies queryId deadline interval (rounds + 1) (room + 1) pause last line ended after

theorem Leaves.loop_eq {replies : Replies} {queryId : String}
    {deadline interval rounds room pause : Nat} {last : Option Snapshot} {line after : Line}
    {ended : LoopEnd}
    (h : Leaves replies queryId deadline interval rounds room pause last line ended after) :
    loop replies queryId deadline interval room pause last line = (ended, after) := by
  induction h with
  | left ran exits => exact loop_of_exit ran exits
  | again ran running _ ih => rw [loop_of_running ran running, ih]

theorem advanceTo_inTime {line : Line} {instant deadline : Nat} (early : line.now ≤ deadline)
    (inTime : instant ≤ deadline) : (line.advanceTo instant).now ≤ deadline :=
  Nat.max_le.mpr ⟨early, inTime⟩

/-- A wait is over by the deadline, or what follows it begins before that. -/
theorem waitUntil_inTime {line after : Line} {deadline : Nat} {instant : Option Nat}
    {follow : Line → Round × Line} {ended : Round}
    (h : waitUntil line deadline instant follow = (ended, after)) (early : line.now ≤ deadline) :
    (after.now ≤ deadline ∧ line.Reaches [] after ∧ (ended = .interrupted ∨ ended = .deadline)) ∨
      ∃ due ∈ instant, due < deadline ∧ follow (line.advanceTo due) = (ended, after) := by
  cases instant with
  | none =>
    obtain ⟨firing, _, inTime, rfl, rfl⟩ | ⟨rfl, rfl⟩ := waitUntil_endless h
    · exact .inl ⟨advanceTo_inTime early inTime, line.reaches_advanceTo firing, .inl rfl⟩
    · exact .inl ⟨advanceTo_inTime early (Nat.le_refl deadline), line.reaches_advanceTo deadline,
        .inr rfl⟩
  | some due =>
    obtain ⟨firing, _, inTime, _, rfl, rfl⟩ | ⟨_, _, rfl, rfl⟩ | ⟨_, before, follows⟩ :=
      waitUntil_first h
    · exact .inl ⟨advanceTo_inTime early inTime, line.reaches_advanceTo firing, .inl rfl⟩
    · exact .inl ⟨advanceTo_inTime early (Nat.le_refl deadline), line.reaches_advanceTo deadline,
        .inr rfl⟩
    · exact .inr ⟨due, rfl, before, follows⟩

theorem poll_inTime {replies : Replies} {queryId : String} {deadline : Nat} {line after : Line}
    {ended : Round} (early : line.now ≤ deadline)
    (h : poll replies queryId deadline line = (ended, after)) :
    after.now ≤ deadline ∧ line.Reaches [⟨line.now, .getQueryExecution queryId⟩] after ∧
      ended ≠ .lost := by
  have begun (interrupts : Bool) :
      line.Reaches [⟨line.now, .getQueryExecution queryId⟩]
        ({ line with polled := line.polled + 1 }.begin (.getQueryExecution queryId) interrupts) :=
    ⟨rfl, rfl, rfl, rfl, rfl, rfl, rfl, Nat.le_refl _⟩
  unfold poll at h
  cases found : replies line.polled with
  | none =>
    simp only [found] at h
    obtain ⟨inTime, reaches, stopped⟩ | ⟨_, absent, _⟩ := waitUntil_inTime h early
    · refine ⟨inTime, (begun _).trans reaches, ?_⟩
      obtain rfl | rfl := stopped <;> simp
    · cases absent
  | some reply =>
    simp only [found] at h
    split at h
    · cases h
      exact ⟨early, begun _, by simp⟩
    · obtain ⟨inTime, reaches, stopped⟩ | ⟨due, _, before, answered⟩ :=
        waitUntil_inTime h early
      · refine ⟨inTime, (begun _).trans reaches, ?_⟩
        obtain rfl | rfl := stopped <;> simp
      · cases answered
        exact ⟨advanceTo_inTime early (Nat.le_of_lt before),
          (begun _).trans (Line.reaches_advanceTo _ due), by simp⟩

/-- What a round takes of the time. It makes one poll at most, which is due before the deadline. -/
structure RoundLasts (queryId : String) (deadline pause : Nat) (line : Line)
    (polls : List TimedCall) (roundEnd : Round) (after : Line) : Prop where
  only : OnlyPolls queryId polls
  reaches : line.Reaches polls after
  inTime : after.now ≤ deadline
  made : polls = [] ∨
    polls.length = 1 ∧ line.now + line.clock.sleep line.now pause < deadline ∧
      line.now + line.clock.sleep line.now pause ≤ after.now
  answers : ∀ answer, roundEnd = .answered answer → polls ≠ []
  /-- A round is lost only for want of an instant at which its wait could be over. -/
  lost : roundEnd = .lost →
    line.now < deadline ∧ line.clock.limit ≤ line.now + line.clock.sleep line.now pause

theorem RoundLasts.stopped {queryId : String} {deadline pause : Nat} {line after : Line}
    {roundEnd : Round} (inTime : after.now ≤ deadline) (reaches : line.Reaches [] after)
    (stopped : roundEnd = .interrupted ∨ roundEnd = .deadline) :
    RoundLasts queryId deadline pause line [] roundEnd after := by
  refine ⟨.nil, reaches, inTime, .inl rfl, ?_, ?_⟩
  · rintro answer rfl
    simp at stopped
  · rintro rfl
    simp at stopped

theorem round_lasts {replies : Replies} {queryId : String} {deadline pause : Nat}
    {line after : Line} {roundEnd : Round} (early : line.now ≤ deadline)
    (h : round replies queryId deadline pause line = (roundEnd, after)) :
    ∃ polls, RoundLasts queryId deadline pause line polls roundEnd after := by
  obtain ⟨_, waits⟩ | ⟨endless, waits⟩ := round_cases h
  · obtain ⟨inTime, reaches, stopped⟩ | ⟨instant, given, due, polled⟩ :=
      waitUntil_inTime waits early
    · exact ⟨[], .stopped inTime reaches stopped⟩
    · obtain rfl := Option.some.inj given
      obtain ⟨inTime, reaches, held⟩ :=
        poll_inTime (advanceTo_inTime early (Nat.le_of_lt due)) polled
      have later := Nat.le_trans (Nat.le_max_right line.now _) reaches.now
      refine ⟨_, OnlyPolls.nil.cons _, (line.reaches_advanceTo _).trans reaches, inTime,
        .inr ⟨rfl, due, later⟩, by simp, ?_⟩
      intro lost
      exact (held lost).elim
  · obtain ⟨inTime, reaches, stopped⟩ | ⟨_, given, due, ended⟩ := waitUntil_inTime waits early
    · exact ⟨[], .stopped inTime reaches stopped⟩
    · obtain rfl := Option.some.inj given
      cases ended
      exact ⟨[], .nil, line.reaches_advanceTo line.now, advanceTo_inTime early early, .inl rfl,
        by simp, fun _ => ⟨due, endless⟩⟩

/-- What a loop takes of the time and of the count. -/
structure Lasts (replies : Replies) (queryId : String) (deadline interval room pause : Nat)
    (last : Option Snapshot) (line : Line) (polls : List TimedCall) (ended : LoopEnd)
    (after : Line) : Prop where
  leaves : ∃ rounds ≤ polls.length + 1,
    Leaves replies queryId deadline interval rounds room pause last line ended after
  only : OnlyPolls queryId polls
  reaches : line.Reaches polls after
  inTime : after.now ≤ deadline
  /-- So many of the shortest wait lead beyond the deadline. -/
  bounded : ∀ shortest, (∀ now < deadline, shortest ≤ line.clock.sleep now interval) →
    ∀ most, deadline ≤ line.now + line.clock.sleep line.now pause + most * shortest →
      polls.length ≤ most
  lost : ended = .lost → room < polls.length ∨
    ∃ now < deadline, ∃ asked, (asked = pause ∨ asked = interval) ∧
      line.clock.limit ≤ now + line.clock.sleep now asked

theorem loop_lasts {replies : Replies} {queryId : String} {deadline interval room pause : Nat}
    {last : Option Snapshot} {line after : Line} {ended : LoopEnd} (early : line.now ≤ deadline)
    (h : loop replies queryId deadline interval room pause last line = (ended, after)) :
    ∃ polls, Lasts replies queryId deadline interval room pause last line polls ended after := by
  induction room using Nat.strongRecOn generalizing pause last line with
  | ind room ih =>
    rcases loop_cases h with
      ⟨roundEnd, ran, exits⟩ | ⟨left, snapshot, middle, rfl, ran, running, rest⟩
    · obtain ⟨polls, spent⟩ := round_lasts early ran
      refine ⟨polls, ⟨1, by omega, .left ran exits⟩, spent.only, spent.reaches, spent.inTime,
        ?_, ?_⟩
      · intro shortest _ most beyond
        obtain rfl | ⟨single, due, _⟩ := spent.made
        · exact Nat.zero_le _
        · cases most <;> omega
      · rintro rfl
        obtain rfl | ⟨rfl, _, rfl⟩ := Round.exit?_eq_lost exits
        · obtain ⟨due, endless⟩ := spent.lost rfl
          exact .inr ⟨line.now, due, pause, .inl rfl, endless⟩
        · exact .inl (List.length_pos_iff.mpr (spent.answers _ rfl))
    · obtain ⟨polls, spent⟩ := round_lasts early ran
      obtain ⟨more, lasts⟩ := ih left (Nat.lt_succ_self left) spent.inTime rest
      obtain ⟨single, due, later⟩ := spent.made.resolve_left (spent.answers _ rfl)
      obtain ⟨rounds, few, leaves⟩ := lasts.leaves
      refine ⟨more ++ polls, ⟨rounds + 1, ?_, .again ran running leaves⟩,
        lasts.only.append spent.only, spent.reaches.trans lasts.reaches, lasts.inTime, ?_, ?_⟩
      · rw [List.length_append]
        omega
      · intro shortest short most beyond
        rw [List.length_append, single]
        cases most with
        | zero => omega
        | succ most =>
          -- The next poll is the shortest wait later at least, so that one less is needed.
          have within := lasts.bounded shortest (by rwa [spent.reaches.clock]) most
          rw [spent.reaches.clock] at within
          rw [Nat.succ_mul] at beyond
          by_cases still : middle.now < deadline
          · have wait := short middle.now still
            exact Nat.succ_le_succ (within (by omega))
          · exact Nat.succ_le_succ (within (by omega))
      · intro lost
        rcases lasts.lost lost with full | ⟨now, due, asked, given, endless⟩
        · refine .inl ?_
          rw [List.length_append]
          omega
        · rw [spent.reaches.clock] at endless
          exact .inr ⟨now, due, asked, .inr (given.elim id id), endless⟩

end RemoteQuery.Polling
