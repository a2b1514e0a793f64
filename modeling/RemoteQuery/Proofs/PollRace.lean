import RemoteQuery.Proofs.RoundRace

/-!
# The race of a poll loop

A loop ends at the first of three instants, namely that of the signal, the deadline, and that of the
first answer which is terminal or an error; and until then it makes just the polls of its schedule.
The induction is on the rounds, with the answers taken so far as the invariant.
-/
namespace RemoteQuery.Polling

inductive LoopRaces (race : Race) (queryId : String) (before : Line) : LoopEnd → Line → Prop
  | interrupted {firing count : Nat} {line : Line} (fires : firing ∈ race.firing)
      (early : firing ≤ race.deadline)
      (first : ∀ index, race.First index → firing ≤ race.ends index)
      (makes : race.Makes count) (stands : Stands race queryId before count line)
      (now : line.now = max race.start firing) :
      LoopRaces race queryId before .interrupted line
  | deadline {last : Option Snapshot} {count : Nat} {line : Line}
      (unfired : ∀ firing ∈ race.firing, race.deadline < firing)
      (late : ∀ index, race.First index → race.deadline ≤ race.ends index)
      (makes : race.Makes count) (latest : race.Last last)
      (stands : Stands race queryId before count line) (now : line.now = race.deadline) :
      LoopRaces race queryId before (.deadline last) line
  | answered {index : Nat} {line : Line} (first : race.First index)
      (inTime : race.ends index < race.deadline)
      (unfired : ∀ firing ∈ race.firing, race.ends index < firing)
      (makes : race.Makes (index + 1)) (stands : Stands race queryId before (index + 1) line)
      (now : line.now = race.ends index) :
      LoopRaces race queryId before (.answered (race.answer index)) line

def Kept (race : Race) : Nat → Option Snapshot → Prop
  | 0, last => last = none
  | index + 1, last => ∃ snapshot, race.answer index = .ok snapshot ∧ last = some snapshot

/-- The loop has taken the answers of the first polls, none of which ends it. -/
structure Taken (race : Race) (count : Nat) (last : Option Snapshot) : Prop where
  undecided : ∀ index < count, ¬ race.Decides index
  inTime : ∀ index < count, race.ends index < race.deadline
  unfired : ∀ index < count, ∀ firing ∈ race.firing, race.ends index < firing
  kept : Kept race count last

theorem Taken.none (race : Race) : Taken race 0 Option.none :=
  ⟨fun _ before => (Nat.not_lt_zero _ before).elim, fun _ before => (Nat.not_lt_zero _ before).elim,
    fun _ before => (Nat.not_lt_zero _ before).elim, rfl⟩

theorem Taken.le_first {race : Race} {count first : Nat} {last : Option Snapshot}
    (h : Taken race count last) (decisive : race.First first) : count ≤ first := by
  apply Nat.le_of_not_lt
  intro before
  exact h.undecided first before decisive.1

theorem Taken.last {race : Race} {count : Nat} {last : Option Snapshot}
    (h : Taken race count last) (late : race.deadline ≤ race.ends count) : race.Last last := by
  have kept := h.kept
  cases count with
  | zero =>
    rw [kept]
    intro index
    exact Nat.le_trans late (race.ends_mono (Nat.zero_le index))
  | succ index =>
    obtain ⟨snapshot, answer, rfl⟩ := kept
    refine ⟨index, answer, h.inTime index (Nat.lt_succ_self index), ?_⟩
    intro later after
    exact Nat.le_trans late (race.ends_mono after)

theorem Taken.makes {race : Race} {index count : Nat} {last : Option Snapshot}
    (h : Taken race index last) (made : count = index ∨ count = index + 1 ∧ race.Goes index)
    (stop : race.deadline ≤ race.starts count ∨
      ∃ firing ∈ race.firing, firing ≤ race.starts count) : race.Makes count := by
  have goes : ∀ earlier < count, race.Goes earlier := by
    intro earlier before
    by_cases taken : earlier < index
    · have within := race.starts_le_ends earlier
      refine ⟨Nat.lt_of_le_of_lt within (h.inTime earlier taken), ?_⟩
      intro firing fires
      exact Nat.lt_of_le_of_lt within (h.unfired earlier taken firing fires)
    · rcases made with rfl | ⟨rfl, going⟩
      · exact (taken before).elim
      · obtain rfl : earlier = index := by omega
        exact going
  refine Race.makes_of_stop goes ?_ (stop.imp_right .inl)
  intro earlier before
  exact h.undecided earlier (by omega)

theorem Taken.next {race : Race} {index : Nat} {last : Option Snapshot} {snapshot : Snapshot}
    (h : Taken race index last) (answer : race.answer index = .ok snapshot)
    (running : snapshot.isTerminal = false) (inTime : race.ends index < race.deadline)
    (unfired : ∀ firing ∈ race.firing, race.ends index < firing) :
    Taken race (index + 1) (some snapshot) := by
  constructor
  · intro earlier before
    rcases Nat.lt_succ_iff_lt_or_eq.mp before with taken | rfl
    · exact h.undecided earlier taken
    · rw [Race.Decides, answer]
      simp [running]
  · intro earlier before
    exact Nat.lt_of_le_of_lt (race.ends_mono (Nat.le_of_lt_succ before)) inTime
  · intro earlier before firing fires
    exact Nat.lt_of_le_of_lt (race.ends_mono (Nat.le_of_lt_succ before)) (unfired firing fires)
  · exact ⟨snapshot, answer, rfl⟩

theorem Taken.answered {before line : Line} {queryId : String} {race : Race} {index : Nat}
    {last : Option Snapshot} (h : Taken race index last) (decides : race.Decides index)
    (inTime : race.ends index < race.deadline)
    (unfired : ∀ firing ∈ race.firing, race.ends index < firing)
    (stands : Stands race queryId before (index + 1) line) (now : line.now = race.ends index) :
    LoopRaces race queryId before (.answered (race.answer index)) line := by
  have first : race.First index := ⟨decides, h.undecided⟩
  refine .answered first inTime unfired ?_ stands now
  refine Race.makes_of_stop ?_ ?_ (.inr (.inr ⟨index, first, Nat.lt_succ_self index⟩))
  · intro earlier made
    have within := race.starts_le_ends earlier
    have upTo := race.ends_mono (Nat.le_of_lt_succ made)
    refine ⟨by omega, ?_⟩
    intro firing fires
    have := unfired firing fires
    omega
  · intro earlier made
    exact h.undecided earlier (by omega)

theorem Taken.comes {race : Race} {index : Nat} {last : Option Snapshot}
    (h : Taken race index last) (inTime : race.ends index < race.deadline)
    (unfired : ∀ firing ∈ race.firing, race.ends index < firing) : race.Comes index := by
  have within := race.starts_le_ends index
  refine ⟨by omega, ?_, fun first decisive => h.le_first decisive⟩
  intro firing fires
  have := unfired firing fires
  omega

theorem loop_races {before line after : Line} {queryId : String}
    {interval deadline room pause index : Nat} {last : Option Snapshot} {race : Race}
    {ended : LoopEnd} (same : race = raceOn before queryId interval deadline)
    (quiet : Quiet before queryId) (limits : race.WithinLimits before.clock)
    (stands : Stands race queryId before index line)
    (due : line.now + line.clock.sleep line.now pause = race.starts index)
    (held : race.starts index < before.clock.limit) (inTime : line.now ≤ race.deadline)
    (passed : line.now = race.start ∨
      race.start ≤ line.now ∧ ∀ firing ∈ race.firing, line.now < firing)
    (taken : Taken race index last) (counts : index + room = mostAnswers)
    (h : loop (serviceReplies before.service queryId) queryId deadline interval room pause last
      line = (ended, after)) : LoopRaces race queryId before ended after := by
  induction room using Nat.strongRecOn generalizing pause index last line with
  | ind room ih =>
    rcases loop_cases h with ⟨roundEnd, ran, exits⟩ |
      ⟨left, snapshot, middle, rfl, ran, running, rest⟩
    · cases round_races same quiet stands due held inTime passed ran with
      | @interrupted firing _ _ fires early first made stop stood now =>
        cases exits
        refine .interrupted fires early ?_ (taken.makes made (.inr ⟨firing, fires, stop⟩)) stood now
        intro other decisive
        exact Nat.le_trans first (race.ends_mono (taken.le_first decisive))
      | deadline unfired late made stop stood now =>
        cases exits
        refine .deadline unfired ?_ (taken.makes made (.inl stop)) (taken.last late) stood now
        intro other decisive
        exact Nat.le_trans late (race.ends_mono (taken.le_first decisive))
      | answered early unfired stood now =>
        have counted := limits.counted index (taken.comes early unfired)
        cases answer : race.answer index with
        | error error =>
          rw [answer] at exits
          cases exits
          rw [← answer]
          refine taken.answered ?_ early unfired stood now
          rw [Race.Decides, answer]
          trivial
        | ok snapshot =>
          rw [answer, Round.exit?, if_neg (by omega)] at exits
          split at exits
          · rename_i terminal
            cases exits
            rw [← answer]
            refine taken.answered ?_ early unfired stood now
            rw [Race.Decides, answer]
            exact terminal
          · cases exits
    · generalize answered : Round.answered (.ok snapshot) = roundEnd at ran
      cases round_races same quiet stands due held inTime passed ran with
      | interrupted | deadline => cases answered
      | answered early unfired stood now =>
        have answer : race.answer index = .ok snapshot := (Round.answered.inj answered).symm
        have next := taken.next answer running early unfired
        have undecided := next.undecided index (Nat.lt_succ_self index)
        have begun := race.starts_mono (Nat.zero_le index)
        have started := race.starts_le_ends index
        have spaced : race.starts (index + 1) =
            race.ends index + before.clock.sleep (race.ends index) interval := by
          rw [same, raceOn_starts_succ]
        refine ih left (Nat.lt_succ_self left) stood ?_
          (limits.waits index ⟨taken.comes early unfired, undecided, early, unfired⟩) (by omega)
          (.inr ⟨?_, ?_⟩) next (by omega) rest
        · rw [spaced, now, stood.clock]
        · rw [now]
          exact Nat.le_trans begun started
        · rw [now]
          exact unfired

end RemoteQuery.Polling
