import RemoteQuery.Proofs.CursorInvariant

/-!
# Calls attributed to submissions

A call about a query carries the identifier that the latest submission before it was answered with.
Calls are given latest first, so that the rest of a list is what came before; each call is told
apart by what follows it in the list.
-/
namespace RemoteQuery

/-- The identifier in the answer to the latest submission among the calls. Earlier submissions on
the line used up the first replies. -/
def latestId? (service : Service) (started : Nat) : List TimedCall → Option String
  | [] => none
  | timed :: earlier =>
    match timed.call with
    | .startQuery _ => submittedId? service (started + countOf .startQuery earlier)
    | _ => latestId? service started earlier

/-- Each call about a query carries the identifier of the latest submission before it. -/
def Attributed (service : Service) (started : Nat) : List TimedCall → Prop
  | [] => True
  | timed :: earlier =>
    Attributed service started earlier ∧
      ∀ queryId, timed.call.queryId? = some queryId →
        queryId ≠ "" ∧ latestId? service started earlier = some queryId

def OnlyAbout (queryId : String) (calls : List TimedCall) : Prop :=
  ∀ timed ∈ calls, timed.call.queryId? = some queryId

theorem Polling.OnlyPolls.onlyAbout {queryId : String} {calls : List TimedCall}
    (h : OnlyPolls queryId calls) : OnlyAbout queryId calls := by
  intro timed member
  rw [h timed member]
  rfl

theorem OnlyPageRequests.onlyAbout {queryId : String} {calls : List TimedCall}
    (h : OnlyPageRequests queryId calls) : OnlyAbout queryId calls :=
  fun timed member => (h timed member).2

theorem OnlyAbout.cons {queryId : String} {timed : TimedCall} {calls : List TimedCall}
    (latest : timed.call.queryId? = some queryId) (h : OnlyAbout queryId calls) :
    OnlyAbout queryId (timed :: calls) := by
  intro other member
  rcases List.mem_cons.mp member with rfl | member
  · exact latest
  · exact h other member

theorem OnlyAbout.append {queryId : String} {later earlier : List TimedCall}
    (h : OnlyAbout queryId later) (h' : OnlyAbout queryId earlier) :
    OnlyAbout queryId (later ++ earlier) := by
  intro timed member
  rcases List.mem_append.mp member with member | member
  · exact h timed member
  · exact h' timed member

theorem Polling.Concludes.onlyAbout {line : Line} {queryId : String} {policy : PollPolicy}
    {result : Except Error PollOutcome} {calls : List TimedCall}
    (h : Concludes line queryId policy result calls) : OnlyAbout queryId calls := by
  cases h with
  | terminal polls | failed polls | left polls => exact polls.onlyAbout
  | timedOut polls | unstopped polls => exact .cons rfl polls.onlyAbout
  | stopped polls => exact .cons rfl (.cons rfl polls.onlyAbout)

theorem latestId?_append {service : Service} {started : Nat} {queryId : String}
    {later earlier : List TimedCall} (about : OnlyAbout queryId later) :
    latestId? service started (later ++ earlier) = latestId? service started earlier := by
  induction later with
  | nil => rfl
  | cons timed later ih =>
    have rest := ih fun other member => about other (List.mem_cons_of_mem _ member)
    have latest := about timed List.mem_cons_self
    cases call : timed.call with
    | startQuery request =>
      rw [call] at latest
      cases latest
    | getQueryExecution | getQueryResults | stopQuery | assumeRole =>
      simp only [List.cons_append, latestId?, call]
      exact rest

theorem Attributed.append {service : Service} {started : Nat} {queryId : String}
    {later earlier : List TimedCall} (h : Attributed service started earlier)
    (about : OnlyAbout queryId later) (nonempty : queryId ≠ "")
    (latest : latestId? service started earlier = some queryId) :
    Attributed service started (later ++ earlier) := by
  induction later with
  | nil => exact h
  | cons timed later ih =>
    have rest : OnlyAbout queryId later :=
      fun other member => about other (List.mem_cons_of_mem _ member)
    refine ⟨ih rest, ?_⟩
    intro asked carried
    rw [about timed List.mem_cons_self] at carried
    cases carried
    exact ⟨nonempty, (latestId?_append rest).trans latest⟩

theorem ne_split_of_countOf_eq_zero {operation : Operation} {timed : TimedCall}
    {calls later earlier : List TimedCall} (none : countOf operation calls = 0)
    (call : timed.call.operation? = some operation) : calls ≠ later ++ timed :: earlier := by
  rintro rfl
  simp [call] at none

/-- The only call of an operation stands at one place. -/
theorem split_unique {operation : Operation} {only timed : TimedCall}
    {after before later earlier : List TimedCall} (noneAfter : countOf operation after = 0)
    (noneBefore : countOf operation before = 0) (call : timed.call.operation? = some operation)
    (split : after ++ only :: before = later ++ timed :: earlier) :
    later = after ∧ earlier = before := by
  induction after generalizing later with
  | nil =>
    cases later with
    | nil => exact ⟨rfl, (List.cons.inj split).2.symm⟩
    | cons other later =>
      exact (ne_split_of_countOf_eq_zero noneBefore call (List.cons.inj split).2).elim
  | cons first after ih =>
    cases later with
    | nil =>
      obtain ⟨rfl, _⟩ := List.cons.inj split
      simp [call] at noneAfter
    | cons other later =>
      obtain ⟨rfl, rest⟩ := List.cons.inj split
      rw [countOf_cons] at noneAfter
      obtain ⟨rfl, rfl⟩ := ih (by omega) rest
      exact ⟨rfl, rfl⟩

end RemoteQuery
