import RemoteQuery.Proofs.CallEffects

/-!
# Sessions

A session is a connection that begins without a client, the cursors that it has made, and the line
that all of them use. Calls of the connection and actions on the cursors follow each other in any
order, and the provider may answer anything. Each step goes on from the attempts that were made
before it.
-/
namespace RemoteQuery

structure Session where
  connection : Connection
  cursors : List QueryCursor := []
  line : Line

namespace Session

/-- The connection has not asked for a client yet. -/
def opened (params : ConnectionParams) (line : Line) : Session :=
  { connection := { params }, line }

def close (session : Session) : Session :=
  { session with connection := session.connection.close }

inductive Event
  | call (action : Connection.Action) (answer : Connection.Answer)
  | act (index : Nat) (action : QueryCursor.Action) (answer : QueryCursor.Answer)
  | pass (ticks : Nat)

def Event.onConnection : Event → Bool
  | .call .. => true
  | .act .. | .pass _ => false

inductive Step (session : Session) : Event → Session → Prop
  | call {action : Connection.Action} {answer : Connection.Answer} {connection : Connection}
      {after : Line}
      (acted : session.connection.act? session.line action = some (answer, connection, after)) :
      Step session (.call action answer)
        ⟨connection, session.cursors ++ answer.cursor?.toList, after⟩
  | act {index : Nat} {cursor later : QueryCursor} {action : QueryCursor.Action}
      {answer : QueryCursor.Answer} {after : Line}
      (held : session.cursors[index]? = some cursor)
      (acted : cursor.act? session.line action = some (answer, later, after)) :
      Step session (.act index action answer)
        ⟨session.connection, session.cursors.set index later, after⟩
  | pass {ticks : Nat} :
      Step session (.pass ticks) { session with line := session.line.wait ticks }

/-- The events of a history, earliest first, lead from one session to the other. -/
inductive Run (session : Session) : List Event → Session → Prop
  | start : Run session [] session
  | step {history : List Event} {current later : Session} {event : Event}
      (run : Run session history current) (step : current.Step event later) :
      Run session (history ++ [event]) later

/-- How often the provider has been asked, from its `first` reply on, and what came of it: the
attempts that failed, and after them the one that did not. -/
inductive Account (provider : Nat → Reply ConnectionError Client) (first : Nat) :
    Nat → Option Client → Prop
  | failing {attempts : Nat}
      (failed : ∀ index < attempts, ∃ cause, (provider (first + index)).result = .error cause) :
      Account provider first attempts none
  | obtained {failures : Nat} {client : Client}
      (failed : ∀ index < failures, ∃ cause, (provider (first + index)).result = .error cause)
      (granted : (provider (first + failures)).result = .ok client) :
      Account provider first (failures + 1) (some client)

/-- What one event can change of it: nothing, or one attempt is added where there is no client. -/
inductive Advances (provider : Nat → Reply ConnectionError Client) (next : Nat) :
    Option Client → Nat → Option Client → Prop
  | kept {client : Option Client} : Advances provider next client 0 client
  | failed {cause : ConnectionError} (failure : (provider next).result = .error cause) :
      Advances provider next none 1 none
  | granted {client : Client} (granted : (provider next).result = .ok client) :
      Advances provider next none 1 (some client)

theorem Account.advances {provider : Nat → Reply ConnectionError Client}
    {first attempts more : Nat} {client later : Option Client}
    (h : Account provider first attempts client)
    (advances : Advances provider (first + attempts) client more later) :
    Account provider first (attempts + more) later := by
  cases advances with
  | kept => exact h
  | failed failure =>
    cases h with
    | failing failed =>
      refine .failing ?_
      intro index less
      rcases Nat.lt_succ_iff_lt_or_eq.mp less with earlier | rfl
      · exact failed index earlier
      · exact ⟨_, failure⟩
  | granted granted =>
    cases h with
    | failing failed => exact .obtained failed granted

theorem Advances.of_some {provider : Nat → Reply ConnectionError Client} {next more : Nat}
    {client : Client} {later : Option Client}
    (h : Advances provider next (some client) more later) :
    more = 0 ∧ later = some client := by
  cases h
  exact ⟨rfl, rfl⟩

/-- What one event can do to a session. -/
structure Moves (provider : Nat → Reply ConnectionError Client) (session : Session)
    (calls : List TimedCall) (later : Session) : Prop where
  reaches : session.line.Reaches calls later.line
  attempts : later.line.attempts = session.line.attempts + attemptsIn calls
  params : later.connection.params = session.connection.params
  advances : Advances provider session.line.attempts session.connection.client (attemptsIn calls)
    later.connection.client
  requests : ∀ timed ∈ calls, timed.call.isAttempt = true →
    timed = session.connection.attempt session.line
  closed : session.connection.closed = true → later.connection.closed = true

/-- The cursors share the client of the connection. -/
structure Sound (session : Session) : Prop where
  shared : ∀ cursor ∈ session.cursors, session.connection.client = some cursor.client
  consistent : ∀ cursor ∈ session.cursors, cursor.Consistent

end Session

open Session in
theorem Connection.Obtains.advances {provider : Nat → Reply ConnectionError Client}
    {connection kept : Connection} {line after : Line} {result : Except ConnectionError Client}
    {calls : List TimedCall} (h : Obtains provider connection line result calls kept after) :
    Advances provider line.attempts connection.client (attemptsIn calls) kept.client := by
  cases h with
  | held held => exact .kept
  | failed missing failure =>
    rw [missing]
    exact .failed failure
  | granted missing granted =>
    rw [missing]
    exact .granted granted

open Session in
theorem Connection.Acts.advances {provider : Nat → Reply ConnectionError Client}
    {connection later : Connection} {line after : Line} {action : Action} {answer : Answer}
    {calls : List TimedCall} (h : Acts provider connection line action answer calls later after) :
    Advances provider line.attempts connection.client (attemptsIn calls) later.client := by
  cases h with
  | closed | refused => exact .kept
  | unprovided _ obtains => exact obtains.advances
  | served _ obtains _ quiet =>
    rw [attemptsIn_append, quiet, Nat.zero_add]
    exact obtains.advances

namespace Session

variable {provider : Nat → Reply ConnectionError Client} {session later : Session}

theorem moves_call {action : Connection.Action} {answer : Connection.Answer}
    {connection : Connection} {after : Line}
    (provided : session.line.service.credentials = some provider) (sound : session.Sound)
    (acted : session.connection.act? session.line action = some (answer, connection, after)) :
    ∃ calls, session.Moves provider calls
      ⟨connection, session.cursors ++ answer.cursor?.toList, after⟩ ∧
      Sound ⟨connection, session.cursors ++ answer.cursor?.toList, after⟩ := by
  obtain ⟨calls, acts, attempts⟩ := Connection.act?_acts provided acted
  have advances := acts.advances
  refine ⟨calls, ?_, ?_, ?_⟩
  · exact ⟨acts.reaches, attempts, acts.params, advances, acts.requests, acts.keeps_closed⟩
  · intro cursor member
    rcases List.mem_append.mp member with member | member
    · rw [sound.shared cursor member] at advances
      exact advances.of_some.2
    · exact (acts.makes (Option.mem_toList.mp member)).1
  · intro cursor member
    rcases List.mem_append.mp member with member | member
    · exact sound.consistent cursor member
    · exact (acts.makes (Option.mem_toList.mp member)).2

theorem moves_act {index : Nat} {cursor later : QueryCursor} {action : QueryCursor.Action}
    {answer : QueryCursor.Answer} {after : Line} (sound : session.Sound)
    (held : session.cursors[index]? = some cursor)
    (acted : cursor.act? session.line action = some (answer, later, after)) :
    ∃ calls, session.Moves provider calls
      ⟨session.connection, session.cursors.set index later, after⟩ ∧
      Sound ⟨session.connection, session.cursors.set index later, after⟩ := by
  have member := List.mem_of_getElem? held
  have consistent := sound.consistent cursor member
  obtain ⟨calls, reaches, quiet, attempts⟩ := QueryCursor.act?_quiet consistent acted
  refine ⟨calls, ⟨reaches, ?_, rfl, ?_, ?_, id⟩, ?_, ?_⟩
  · rw [quiet]
    exact attempts
  · rw [quiet]
    exact .kept
  · intro timed member attempt
    exact (not_isAttempt_of_quiet quiet member attempt).elim
  · intro other member
    rcases List.mem_or_eq_of_mem_set member with member | rfl
    · exact sound.shared other member
    · rw [QueryCursor.client_act consistent acted]
      exact sound.shared cursor (List.mem_of_getElem? held)
  · intro other member
    rcases List.mem_or_eq_of_mem_set member with member | rfl
    · exact sound.consistent other member
    · exact QueryCursor.consistent_act consistent acted

theorem Step.moves {event : Event} (h : session.Step event later)
    (provided : session.line.service.credentials = some provider) (sound : session.Sound) :
    ∃ calls, session.Moves provider calls later ∧ later.Sound := by
  cases h with
  | call acted => exact moves_call provided sound acted
  | act held acted => exact moves_act sound held acted
  | pass =>
    exact ⟨[], ⟨session.line.reaches_wait _, rfl, rfl, .kept, nofun, id⟩, sound.shared,
      sound.consistent⟩

end Session

end RemoteQuery
