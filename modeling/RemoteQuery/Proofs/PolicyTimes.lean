import RemoteQuery.Proofs.CursorInvariant
import RemoteQuery.Proofs.ValidParams

/-!
# The times that a cursor polls with

The cursors of a connection poll with an interval and a timeout that are longer than nothing, and
nothing that is done with a cursor changes them.
-/
namespace RemoteQuery.QueryCursor

theorem policy_concluded {cursor later : QueryCursor} {queryId : String} {line after : Line}
    {outcome : PollOutcome} {result : Except Error Unit} {calls : List TimedCall}
    (h : Concluded cursor queryId line outcome result later calls after) :
    later.policy = cursor.policy := by
  cases h <;> rfl

theorem policy_act {cursor later : QueryCursor} {line after : Line} {action : Action}
    {answer : Answer} (h : Consistent cursor)
    (acted : cursor.act? line action = some (answer, later, after)) :
    later.policy = cursor.policy := by
  cases h.acts acted with
  | executed _ _ _ executed =>
    cases executed with
    | unsubmitted | unpolled => rfl
    | concluded _ _ _ _ concluded =>
      exact (policy_concluded concluded : _ = (cursor.reset.polling _).policy)
  | fetched _ fetched => cases fetched <;> rfl
  | _ => rfl

theorem Later.policy {cursor later : QueryCursor} (h : cursor.Later later)
    (consistent : Consistent cursor) : later.policy = cursor.policy := by
  induction h with
  | refl => rfl
  | act earlier acted ih => exact (policy_act (earlier.consistent consistent) acted).trans ih

/-- The cursor polls with an interval and a timeout that are longer than nothing. -/
structure PollsWithTime (cursor : QueryCursor) : Prop where
  interval : cursor.policy.interval.isZero = false
  timeout : 0 < cursor.policy.timeout.ticks

theorem Later.pollsWithTime {connection : Connection} {line : Line} {fresh later : QueryCursor}
    (obtained : connection.params.Obtained) (makes : connection.Makes line fresh)
    (h : fresh.Later later) : PollsWithTime later := by
  have kept := h.policy (consistent_fresh makes)
  obtain ⟨client, options, valid, rfl⟩ := makes.fresh
  refine ⟨?_, ?_⟩
  · rw [kept]
    exact (CursorOptions.validate_eq_ok valid).1
  · rw [kept]
    apply Nat.pos_of_ne_zero
    intro none
    have lasting := obtained.valid.timeout
    have expired : connection.params.timeout.isZero = true := Duration.ticks_eq_zero_iff.mp none
    rw [expired] at lasting
    cases lasting

end RemoteQuery.QueryCursor
