import RemoteQuery.Polling

/-!
# The schedule of a poll loop

When the answers are known beforehand, so is the instant of every poll: the first starts at once,
and each later one a wait after the answer to the one before. How long that wait is depends on the
instant at which it begins, since a timer need not hold a sleep of the whole interval. The loop
comes to just those polls that start before the deadline and before the signal is fired, up to the
first whose answer is terminal or an error.
-/
namespace RemoteQuery.Polling

/-- What a poll loop is up against. Polls are counted from zero. -/
structure Race where
  start : Nat
  /-- How long the wait for the next poll is that begins at an instant. -/
  pause : Nat → Nat
  deadline : Nat
  firing : Option Nat
  delay : Nat → Nat
  answer : Nat → Except Error Snapshot

namespace Race

/-- The instant at which a poll starts, if the loop gets there. -/
def starts (race : Race) : Nat → Nat
  | 0 => race.start
  | index + 1 =>
    let ended := race.starts index + race.delay index
    ended + race.pause ended

def ends (race : Race) (index : Nat) : Nat := race.starts index + race.delay index

def Decides (race : Race) (index : Nat) : Prop :=
  match race.answer index with
  | .error _ => True
  | .ok snapshot => snapshot.isTerminal = true

def First (race : Race) (index : Nat) : Prop :=
  race.Decides index ∧ ∀ earlier < index, ¬ race.Decides earlier

/-- The signal is fired before the deadline and before the answer that would end the loop. Of two
that come at one instant the signal is the first. -/
def Interrupts (race : Race) : Prop :=
  ∃ firing ∈ race.firing,
    firing ≤ race.deadline ∧ ∀ index, race.First index → firing ≤ race.ends index

/-- The loop comes to the poll: it starts before the deadline and before the signal is fired, and no
earlier answer ends the loop. -/
def Comes (race : Race) (index : Nat) : Prop :=
  race.starts index < race.deadline ∧ (∀ firing ∈ race.firing, race.starts index < firing) ∧
    ∀ first, race.First first → index ≤ first

/-- The loop comes to the poll, and its answer comes in time and does not end the loop. -/
structure GoesOn (race : Race) (index : Nat) : Prop where
  comes : race.Comes index
  undecided : ¬ race.Decides index
  inTime : race.ends index < race.deadline
  unfired : ∀ firing ∈ race.firing, race.ends index < firing

/-- So many polls are made. -/
def Makes (race : Race) (count : Nat) : Prop := ∀ index, index < count ↔ race.Comes index

/-- The snapshot in the latest answer before the deadline. -/
def Last (race : Race) : Option Snapshot → Prop
  | none => ∀ index, race.deadline ≤ race.ends index
  | some snapshot => ∃ index, race.answer index = .ok snapshot ∧ race.ends index < race.deadline ∧
      ∀ later, index < later → race.deadline ≤ race.ends later

/-- The first polls of the schedule, latest first. -/
def polls (race : Race) (queryId : String) : Nat → List TimedCall
  | 0 => []
  | count + 1 => ⟨race.starts count, .getQueryExecution queryId⟩ :: race.polls queryId count

/-- Each wait that the loop begins is over at an instant of the clock, and no more polls are made
than answers can be counted. -/
structure WithinLimits (race : Race) (clock : Clock) : Prop where
  waits : ∀ index, race.GoesOn index → race.starts (index + 1) < clock.limit
  counted : ∀ index, race.Comes index → index < mostAnswers

theorem starts_le_ends (race : Race) (index : Nat) : race.starts index ≤ race.ends index :=
  Nat.le_add_right _ _

theorem ends_le_starts (race : Race) {earlier later : Nat} (h : earlier < later) :
    race.ends earlier ≤ race.starts later := by
  induction later with
  | zero => omega
  | succ later ih =>
    have next : race.ends later ≤ race.starts (later + 1) := Nat.le_add_right _ _
    rcases Nat.lt_succ_iff_lt_or_eq.mp h with before | rfl
    · have within := race.starts_le_ends later
      have := ih before
      omega
    · exact next

theorem starts_mono (race : Race) {earlier later : Nat} (h : earlier ≤ later) :
    race.starts earlier ≤ race.starts later := by
  rcases Nat.lt_or_eq_of_le h with before | rfl
  · exact Nat.le_trans (race.starts_le_ends earlier) (race.ends_le_starts before)
  · exact Nat.le_refl _

theorem ends_mono (race : Race) {earlier later : Nat} (h : earlier ≤ later) :
    race.ends earlier ≤ race.ends later := by
  rcases Nat.lt_or_eq_of_le h with before | rfl
  · exact Nat.le_trans (race.ends_le_starts before) (race.starts_le_ends later)
  · exact Nat.le_refl _

theorem First.unique {race : Race} {one other : Nat} (h : race.First one) (h' : race.First other) :
    one = other := by
  rcases Nat.lt_trichotomy one other with before | same | after
  · exact (h'.2 one before h.1).elim
  · exact same
  · exact (h.2 other after h'.1).elim

def Goes (race : Race) (index : Nat) : Prop :=
  race.starts index < race.deadline ∧ ∀ firing ∈ race.firing, race.starts index < firing

theorem makes_of_stop {race : Race} {count : Nat} (goes : ∀ index < count, race.Goes index)
    (undecided : ∀ index, index + 1 < count → ¬ race.Decides index)
    (stop : race.deadline ≤ race.starts count ∨
      (∃ firing ∈ race.firing, firing ≤ race.starts count) ∨
        ∃ first, race.First first ∧ first < count) : race.Makes count := by
  intro index
  constructor
  · intro before
    obtain ⟨early, unfired⟩ := goes index before
    refine ⟨early, unfired, ?_⟩
    intro first decisive
    apply Nat.le_of_not_lt
    intro later
    exact undecided first (by omega) decisive.1
  · rintro ⟨early, unfired, upTo⟩
    apply Nat.lt_of_not_le
    intro beyond
    have later := race.starts_mono beyond
    rcases stop with late | ⟨firing, fires, fired⟩ | ⟨first, decisive, before⟩
    · omega
    · have := unfired firing fires
      omega
    · have := upTo first decisive
      omega

end Race

/-- The race that a loop on the line is up against, in the time that replies take. -/
def raceOn (line : Line) (queryId : String) (interval deadline : Nat) : Race where
  start := line.now
  pause := fun now => line.clock.sleep now interval
  deadline := deadline
  firing := line.interrupt.bind Signal.firesAt
  delay := fun index => (line.service.execution (line.polled + index) queryId).delay
  answer := fun index =>
    snapshotOf queryId (line.service.execution (line.polled + index) queryId).result

theorem raceOn_starts_succ (line : Line) (queryId : String) (interval deadline index : Nat) :
    (raceOn line queryId interval deadline).starts (index + 1) =
      (raceOn line queryId interval deadline).ends index +
        line.clock.sleep ((raceOn line queryId interval deadline).ends index) interval := rfl

/-- No reply to a poll that is still to come fires the signal. -/
def Quiet (line : Line) (queryId : String) : Prop :=
  ∀ index, line.polled ≤ index → (line.service.execution index queryId).interrupts = false

end RemoteQuery.Polling
