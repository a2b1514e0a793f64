import RemoteQuery.Proofs.ConnectionLifecycle
import RemoteQuery.Proofs.SessionLabels

/-!
# The labels of a run

Each attempt of a session carries a label of its own. Over a run these are the labels of the random
ends that were drawn, so that no label is sent twice unless the same end is drawn twice.
-/
namespace RemoteQuery

def Call.label? : Call → Option String
  | .assumeRole _ label _ => some label
  | _ => none

theorem Call.isAttempt_of_label? {call : Call} {label : String} (h : call.label? = some label) :
    call.isAttempt = true := by
  cases call with
  | assumeRole => rfl
  | _ => cases h

/-- The labels that the calls carry, latest first. -/
def labelsIn (calls : List TimedCall) : List String :=
  calls.filterMap fun timed => timed.call.label?

theorem labelsIn_append (later earlier : List TimedCall) :
    labelsIn (later ++ earlier) = labelsIn later ++ labelsIn earlier :=
  List.filterMap_append

theorem length_labelsIn (calls : List TimedCall) : (labelsIn calls).length = attemptsIn calls := by
  rw [labelsIn, List.length_filterMap_eq_countP, attemptsIn]
  refine List.countP_congr ?_
  rintro ⟨_, call⟩ _
  cases call <;> exact Iff.rfl

/-- The labels of as many attempts, from the given one on, latest first. -/
def labelsFrom (name : String) (service : Service) (first count : Nat) : List String :=
  ((List.range count).map fun index =>
    SessionLabel.make name (service.labelSuffix (first + index))).reverse

theorem labelsFrom_add (name : String) (service : Service) (first count more : Nat) :
    labelsFrom name service first (count + more) =
      labelsFrom name service (first + count) more ++ labelsFrom name service first count := by
  simp [labelsFrom, List.range_add, Nat.add_assoc, Function.comp_def]

theorem mem_labelsFrom_iff {name : String} {service : Service} {first count : Nat}
    {label : String} : label ∈ labelsFrom name service first count ↔
      ∃ index < count, SessionLabel.make name (service.labelSuffix (first + index)) = label := by
  simp only [labelsFrom, List.mem_reverse, List.mem_map, List.mem_range]

namespace Session

variable {provider : Nat → Reply ConnectionError Client} {session later : Session}

theorem Advances.le_one {next more : Nat} {client kept : Option Client}
    (h : Advances provider next client more kept) : more ≤ 1 := by
  cases h with
  | kept => exact Nat.zero_le 1
  | failed | granted => exact Nat.le_refl 1

theorem Moves.labels {calls : List TimedCall} (h : session.Moves provider calls later) :
    labelsIn calls = labelsFrom session.connection.params.sessionName session.line.service
      session.line.attempts (attemptsIn calls) := by
  have same : labelsIn calls =
      List.replicate (attemptsIn calls) (session.connection.sessionLabel session.line) := by
    refine List.eq_replicate_iff.mpr ⟨length_labelsIn calls, ?_⟩
    intro label member
    obtain ⟨timed, called, found⟩ := List.mem_filterMap.mp member
    rw [h.requests timed called (Call.isAttempt_of_label? found)] at found
    exact (Option.some.inj found).symm
  rw [same]
  rcases Nat.le_one_iff_eq_zero_or_eq_one.mp h.advances.le_one with none | one
  · rw [none]
    rfl
  · rw [one]
    rfl

/-- A run draws the random ends in their order and leaves none out. -/
theorem Run.labels {history : List Event} (run : session.Run history later)
    (provided : session.line.service.credentials = some provider) (sound : session.Sound) :
    ∃ calls, Tracks provider session calls later ∧
      labelsIn calls = labelsFrom session.connection.params.sessionName session.line.service
        session.line.attempts (attemptsIn calls) := by
  induction run with
  | start => exact ⟨[], .refl sound, rfl⟩
  | step _ step ih =>
    obtain ⟨calls, tracks, labels⟩ := ih
    have service := tracks.reaches.service
    obtain ⟨more, moves, sound⟩ := step.moves (service ▸ provided) tracks.sound
    refine ⟨more ++ calls, tracks.moves moves sound, ?_⟩
    rw [labelsIn_append, moves.labels, labels, tracks.params, service, tracks.attempts,
      attemptsIn_append, Nat.add_comm (attemptsIn more), labelsFrom_add]

/-- Over every run of a session the provider is sent labels that the identity service accepts, and
no label twice unless the same random end is drawn twice. -/
theorem run_labels {params : ConnectionParams} {line : Line} {history : List Event}
    (provided : line.service.credentials = some provider)
    (random : ∀ index, SessionLabel.IsRandomEnd (line.service.labelSuffix index))
    (run : (opened params line).Run history session) :
    ∃ calls, line.Reaches calls session.line ∧
      (∀ label ∈ labelsIn calls, SessionLabel.IsLabel label) ∧
      ((∀ i < session.line.attempts, ∀ j < session.line.attempts,
        line.service.labelSuffix i = line.service.labelSuffix j → i = j) →
        (labelsIn calls).Nodup) := by
  obtain ⟨calls, tracks, labels⟩ := run.labels provided (sound_opened params line)
  have attempts : session.line.attempts = line.attempts + attemptsIn calls := tracks.attempts
  replace labels : labelsIn calls =
      labelsFrom params.sessionName line.service line.attempts (attemptsIn calls) := labels
  refine ⟨calls, tracks.reaches, ?_, ?_⟩
  · intro label member
    rw [labels] at member
    obtain ⟨index, _, rfl⟩ := mem_labelsFrom_iff.mp member
    exact SessionLabel.isLabel_make (random _)
  · intro distinct
    rw [labels, labelsFrom, List.nodup_reverse]
    refine List.Nodup.map_on ?_ List.nodup_range
    intro i iLess j jLess same
    rw [List.mem_range] at iLess jLess
    have ends := SessionLabel.suffix_of_make (random _) (random _) same
    have places := distinct _ (by omega) _ (by omega) ends
    omega

end Session

end RemoteQuery
