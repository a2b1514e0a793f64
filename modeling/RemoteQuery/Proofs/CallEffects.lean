import RemoteQuery.Proofs.ServedCalls

/-!
# What follows for every call

A call goes on from the line as it is, keeps the parameters, and does not open a connection that is
closed. It asks the provider for nothing but what the connection needs, and once if there is no
client yet; and a cursor that it hands over has the client of the connection.
-/
namespace RemoteQuery.Connection

variable {provider : Nat → Reply ConnectionError Client} {connection kept later : Connection}
  {line after : Line} {action : Action} {answer : Answer} {options : CursorOptions}
  {calls : List TimedCall}

theorem Acts.reaches (h : Acts provider connection line action answer calls later after) :
    line.Reaches calls after := by
  cases h with
  | closed | refused => exact .refl _
  | unprovided _ obtains => exact obtains.requests.1
  | served _ obtains onward => exact obtains.requests.1.trans onward

theorem Acts.params (h : Acts provider connection line action answer calls later after) :
    later.params = connection.params := by
  cases h with
  | closed | refused => rfl
  | unprovided _ obtains | served _ obtains => exact obtains.params

theorem Acts.keeps_closed (h : Acts provider connection line action answer calls later after)
    (closed : connection.closed = true) : later.closed = true := by
  cases h with
  | closed => rfl
  | refused => exact closed
  | unprovided _ obtains | served _ obtains => exact obtains.requests.2.2.trans closed

/-- The provider is asked for nothing but what the connection needs. -/
theorem Acts.requests (h : Acts provider connection line action answer calls later after) :
    ∀ timed ∈ calls, timed.call.isAttempt = true → timed = connection.attempt line := by
  intro timed member attempt
  cases h with
  | closed | refused => exact nomatch member
  | unprovided _ obtains => exact obtains.requests.2.1 timed member
  | served _ obtains _ quiet =>
    rcases List.mem_append.mp member with member | member
    · exact (not_isAttempt_of_quiet quiet member attempt).elim
    · exact obtains.requests.2.1 timed member

/-- Without a client, a call that needs one makes one attempt. -/
theorem Acts.attemptsIn_eq_one
    (h : Acts provider connection line action answer calls later after)
    (missing : connection.client = none) (accepted : connection.Accepts action) :
    attemptsIn calls = 1 := by
  cases h with
  | closed => exact (accepted.1 rfl).elim
  | refused asks grounds => exact (accepted.2 _ asks _ grounds).elim
  | unprovided _ obtains => exact obtains.attemptsIn_eq_one missing
  | served _ obtains _ quiet =>
    rw [attemptsIn_append, quiet, Nat.zero_add]
    exact obtains.attemptsIn_eq_one missing

/-- The cursor that an answer hands over. -/
def Answer.cursor? : Answer → Option QueryCursor
  | .cursor (.ok made) => some made
  | _ => none

theorem Action.cursor?_of_failed {error : Error} (fails : action.failed? error = some answer) :
    answer.cursor? = none := by
  cases action <;> cases fails <;> rfl

theorem Action.cursor?_of_unprovided {cause : ConnectionError}
    (fails : action.unprovided? cause = some answer) : answer.cursor? = none := by
  cases action <;> cases fails <;> rfl

theorem Obtains.client {client : Client}
    (h : Obtains provider connection line (.ok client) calls kept after) :
    kept.client = some client := by
  cases h with
  | held held => exact held
  | granted => rfl

theorem Serves.makes {params : ConnectionParams} {client : Client} {cursor : QueryCursor}
    (h : Serves params client line action answer after) (accepted : connection.Accepts action)
    (made : answer.cursor? = some cursor) : cursor.client = client ∧ cursor.Consistent := by
  cases h with
  | client | queried | queriedArrow | updated => cases made
  | cursor =>
    cases made
    exact ⟨rfl, consistent_standard params client⟩
  | @cursorWith options =>
    cases made
    exact ⟨rfl, consistent_made (arraySize_of_accepted (accepted.2 options rfl))⟩
  | unexecuted _ _ fails => exact nomatch (Action.cursor?_of_failed fails).symm.trans made
  | executed executed =>
    cases made
    have consistent := consistent_standard params client
    exact ⟨QueryCursor.client_act consistent executed,
      QueryCursor.consistent_act consistent executed⟩

/-- A cursor that is handed over has the client of the connection. -/
theorem Acts.makes {cursor : QueryCursor}
    (h : Acts provider connection line action answer calls later after)
    (made : answer.cursor? = some cursor) :
    later.client = some cursor.client ∧ cursor.Consistent := by
  cases h with
  | closed => cases made
  | refused _ _ fails => exact nomatch (Action.cursor?_of_failed fails).symm.trans made
  | unprovided _ _ fails => exact nomatch (Action.cursor?_of_unprovided fails).symm.trans made
  | served accepted obtains _ _ serves =>
    obtain ⟨same, consistent⟩ := serves.makes accepted made
    exact ⟨obtains.client.trans (congrArg some same.symm), consistent⟩

end RemoteQuery.Connection
