import RemoteQuery.Proofs.SessionSteps
import RemoteQuery.Proofs.ValidParams

/-!
# The life of a connection

Over a session the provider is asked until it first grants a client, and never again; what is shared
by all cursors is that client. Closing the connection is final for the connection and nothing to its
cursors.
-/
namespace RemoteQuery

namespace Session

variable {provider : Nat → Reply ConnectionError Client} {session later : Session}

/-- The role, the region and a label made from the name of the session. -/
def Carries (params : ConnectionParams) (service : Service) (call : Call) : Prop :=
  ∃ index, call = .assumeRole params.roleArn
    (SessionLabel.make params.sessionName (service.labelSuffix index)) params.region

/-- What a run can do to a session. -/
structure Tracks (provider : Nat → Reply ConnectionError Client) (session : Session)
    (calls : List TimedCall) (later : Session) : Prop where
  reaches : session.line.Reaches calls later.line
  attempts : later.line.attempts = session.line.attempts + attemptsIn calls
  params : later.connection.params = session.connection.params
  account : ∀ first attempts, first + attempts = session.line.attempts →
    Account provider first attempts session.connection.client →
    Account provider first (attempts + attemptsIn calls) later.connection.client
  kept : ∀ client, session.connection.client = some client →
    attemptsIn calls = 0 ∧ later.connection.client = some client
  requests : ∀ timed ∈ calls, timed.call.isAttempt = true →
    Carries session.connection.params session.line.service timed.call
  closed : session.connection.closed = true → later.connection.closed = true
  sound : later.Sound

theorem Tracks.refl (sound : session.Sound) : Tracks provider session [] session :=
  ⟨.refl _, rfl, rfl, fun _ _ _ account => account, fun _ holds => ⟨rfl, holds⟩, nofun, id, sound⟩

theorem Tracks.moves {current : Session} {calls more : List TimedCall}
    (h : Tracks provider session calls current) (moves : current.Moves provider more later)
    (sound : later.Sound) : Tracks provider session (more ++ calls) later where
  reaches := h.reaches.trans moves.reaches
  attempts := by
    rw [moves.attempts, h.attempts, attemptsIn_append, Nat.add_assoc,
      Nat.add_comm (attemptsIn more)]
  params := moves.params.trans h.params
  account := by
    intro first attempts started account
    have next : first + (attempts + attemptsIn calls) = current.line.attempts := by
      rw [h.attempts, ← started, Nat.add_assoc]
    rw [attemptsIn_append, Nat.add_comm (attemptsIn more), ← Nat.add_assoc]
    exact (h.account first attempts started account).advances (next ▸ moves.advances)
  kept := by
    intro client holds
    obtain ⟨none, held⟩ := h.kept client holds
    have advances := moves.advances
    rw [held] at advances
    obtain ⟨quiet, still⟩ := advances.of_some
    rw [attemptsIn_append, none, quiet]
    exact ⟨rfl, still⟩
  requests := by
    intro timed member attempt
    rcases List.mem_append.mp member with member | member
    · rw [moves.requests timed member attempt, Connection.attempt, Connection.sessionLabel,
        h.params, h.reaches.service]
      exact ⟨_, rfl⟩
    · exact h.requests timed member attempt
  closed := fun closed => moves.closed (h.closed closed)
  sound := sound

theorem Run.tracks {history : List Event} (run : session.Run history later)
    (provided : session.line.service.credentials = some provider) (sound : session.Sound) :
    ∃ calls, Tracks provider session calls later := by
  induction run with
  | start => exact ⟨[], .refl sound⟩
  | step _ step ih =>
    obtain ⟨calls, tracks⟩ := ih
    have service := tracks.reaches.service
    obtain ⟨more, moves, sound⟩ := step.moves (service ▸ provided) tracks.sound
    exact ⟨more ++ calls, tracks.moves moves sound⟩

theorem Run.close {history : List Event} (run : session.Run history later)
    (apart : ∀ event ∈ history, event.onConnection = false) :
    session.close.Run history later.close := by
  induction run with
  | start => exact .start
  | step _ step ih =>
    have onward := ih fun event member => apart event (List.mem_append_left _ member)
    refine .step onward ?_
    cases step with
    | call => exact nomatch apart _ (List.mem_append_right _ List.mem_cons_self)
    | act held acted => exact .act held acted
    | pass => exact .pass

/-- What holds of a session that began without a client. -/
structure Lifecycle (provider : Nat → Reply ConnectionError Client) (params : ConnectionParams)
    (line : Line) (session : Session) : Prop where
  /-- The attempts are those that failed before the first success, and the one that succeeded. -/
  counted : ∃ calls, line.Reaches calls session.line ∧
    session.line.attempts = line.attempts + attemptsIn calls ∧
    Account provider line.attempts (attemptsIn calls) session.connection.client ∧
    ∀ timed ∈ calls, timed.call.isAttempt = true → Carries params line.service timed.call
  kept : ∀ client, session.connection.client = some client →
    ∀ more later, session.Run more later →
      later.connection.client = some client ∧
        ∃ calls, session.line.Reaches calls later.line ∧ attemptsIn calls = 0
  shared : ∀ cursor ∈ session.cursors, session.connection.client = some cursor.client
  acts : ∀ action answer connection after,
    session.connection.act? session.line action = some (answer, connection, after) →
    ∃ calls, session.line.Reaches calls after ∧
      Connection.Acts provider session.connection session.line action answer calls connection
        after ∧
      (session.connection.client = none → session.connection.Accepts action → attemptsIn calls = 1)
  fails : ∀ action cause, session.connection.client = none → session.connection.Accepts action →
    (provider session.line.attempts).result = .error cause →
    ∃ answer after, action.unprovided? cause = some answer ∧
      session.connection.act? session.line action = some (answer, session.connection, after) ∧
      session.line.Reaches [session.connection.attempt session.line] after
  refuses : ∀ action options cause, action.options? params = some options →
    session.connection.Refuses options cause →
    ∃ answer, action.failed? (.programming cause) = some answer ∧
      session.connection.act? session.line action =
        some (answer, session.connection, session.line)
  /-- Once the parameters are valid, only the provider can keep an open connection from a cursor. -/
  cursor : params.Obtained → session.connection.closed = false →
    ∀ error connection after,
      session.connection.cursor session.line = (.error error, connection, after) →
      ∃ cause, error = .connection cause ∧ session.connection.client = none ∧
        (provider session.line.attempts).result = .error cause
  final : session.connection.closed = true → ∀ more later, session.Run more later →
    later.connection.closed = true ∧
      ∀ action options, Connection.Action.options? params action = some options →
        ∃ answer, action.failed? (.programming .connectionClosed) = some answer ∧
          later.connection.act? later.line action = some (answer, later.connection, later.line)
  /-- What is done on the cursors does not depend on whether the connection is closed. -/
  isolated : ∀ more later, (∀ event ∈ more, event.onConnection = false) →
    session.Run more later → session.close.Run more later.close

theorem sound_opened (params : ConnectionParams) (line : Line) : (opened params line).Sound :=
  ⟨fun _ member => (List.not_mem_nil member).elim, fun _ member => (List.not_mem_nil member).elim⟩

/-- Over every run of a connection the provider is asked until it grants a client and not again,
each call does what it is allowed to, and a closed connection makes no more cursors. -/
theorem run_lifecycle {params : ConnectionParams} {line : Line} {history : List Event}
    (provided : line.service.credentials = some provider)
    (run : (opened params line).Run history session) : Lifecycle provider params line session := by
  obtain ⟨calls, tracks⟩ := run.tracks provided (sound_opened params line)
  have same : session.connection.params = params := tracks.params
  have onward : session.line.service.credentials = some provider :=
    tracks.reaches.service ▸ provided
  refine {
    counted := ⟨calls, tracks.reaches, tracks.attempts, ?_, tracks.requests⟩
    kept := ?_
    shared := tracks.sound.shared
    acts := ?_
    fails := fun _ _ missing accepted => Connection.act?_of_failure onward accepted missing
    refuses := ?_
    cursor := ?_
    final := ?_
    isolated := fun _ _ apart run => run.close apart }
  · have account := tracks.account line.attempts 0 rfl (.failing nofun)
    rwa [Nat.zero_add] at account
  · intro client holds more later further
    obtain ⟨made, tracked⟩ := further.tracks onward tracks.sound
    obtain ⟨quiet, held⟩ := tracked.kept client holds
    exact ⟨held, made, tracked.reaches, quiet⟩
  · intro action answer connection after acted
    obtain ⟨made, acts, _⟩ := Connection.act?_acts onward acted
    exact ⟨made, acts.reaches, acts, acts.attemptsIn_eq_one⟩
  · intro action options cause asks grounds
    exact Connection.act?_of_refuses (same.symm ▸ asks) grounds session.line
  · intro obtained opened error connection after failed
    have positive : session.connection.params.pollInterval.isZero = false :=
      same.symm ▸ obtained.valid.pollInterval
    exact Connection.cursor_eq_error onward opened positive failed
  · intro closed more later further
    obtain ⟨made, tracked⟩ := further.tracks onward tracks.sound
    have params : later.connection.params = params := tracked.params.trans same
    refine ⟨tracked.closed closed, ?_⟩
    intro action options asks
    exact Connection.act?_of_refuses (params.symm ▸ asks) (.closed (tracked.closed closed))
      later.line

/-- A provider that fails once. -/
def falteringProvider (index : Nat) : Reply ConnectionError Client :=
  { result := if index = 0 then .error (.credentials "role" "no token") else .ok ⟨7⟩ }

def falteringLine : Line :=
  { QueryCursor.promptLine with
    service := { promptService with credentials := some falteringProvider } }

/-- The first attempt fails and the second does not. After the connection is closed the cursor that
it made goes on, and no other is made. -/
theorem run_lifecycle_faltering :
    ∃ history session cursor,
      (opened QueryCursor.plainConnection.params falteringLine).Run history session ∧
      Lifecycle falteringProvider QueryCursor.plainConnection.params falteringLine session ∧
      history = [.call .cursor (.cursor (.error (.connection (.credentials "role" "no token")))),
        .call .cursor (.cursor (.ok cursor)), .call .close .closed,
        .act 0 .fetchOne (.row (.error (.programming .noResultSet))),
        .call (.query "SELECT n") (.rows (.error (.programming .connectionClosed)))] ∧
      session.connection.client = some ⟨7⟩ ∧ attemptsIn session.line.calls = 2 := by
  have run : (opened QueryCursor.plainConnection.params falteringLine).Run
      ([] ++ [.call .cursor _] ++ [.call .cursor _] ++ [.call .close _] ++ [.act 0 .fetchOne _] ++
        [.call (.query "SELECT n") _]) _ :=
    .step (.step (.step (.step (.step .start (.call rfl)) (.call rfl)) (.call rfl)) (.act rfl rfl))
      (.call rfl)
  exact ⟨_, _, _, run, run_lifecycle rfl run, rfl, rfl, rfl⟩

end Session

end RemoteQuery
