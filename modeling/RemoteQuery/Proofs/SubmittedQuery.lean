import RemoteQuery.Proofs.CursorRun
import RemoteQuery.Proofs.PollCalls

/-!
# From a submission to the first page

A statement is submitted with a request, and its query is named by the answer. Every error that an
answer of the service brings about is told apart from the two that give a query up.
-/
namespace RemoteQuery

/-- The error tells of an answer of the service, not of a query that was given up. -/
def Error.OfAnswer : Error → Prop
  | operational (.transport ..) | data _ | database _ => True
  | _ => False

theorem Polling.snapshotOf_error {queryId : String} {error : Error}
    {answer : Except TransportError Message.GetQueryExecutionResponse}
    (h : snapshotOf queryId answer = .error error) : error.OfAnswer := by
  unfold snapshotOf at h
  split at h
  · cases h
    trivial
  · split at h
    · cases h
    · cases h
      trivial

theorem Polling.Reports.ofAnswer {replies : Replies} {polled : Nat} {error : Error}
    {calls : List TimedCall} (h : Reports replies polled (.error error) calls) :
    error.OfAnswer := by
  cases calls with
  | nil => exact h.elim
  | cons timed earlier =>
    obtain ⟨_, _, _, _, answer⟩ := h
    exact snapshotOf_error answer

theorem ResultSet.pageOf_error {error : Error}
    {answer : Except TransportError Message.GetQueryResultsResponse}
    (h : pageOf answer = .error error) : error.OfAnswer := by
  unfold pageOf at h
  split at h
  · cases h
    trivial
  · split at h
    · cases h
    · cases h
      trivial

/-- The identifier in the answer to the n-th submission on a service. -/
def submittedId? (service : Service) (index : Nat) : Option String :=
  match (service.start index).result with
  | .ok response => some response.queryExecutionId
  | .error _ => none

/-- How the query of a cursor has ended, if the service has said so. -/
def CursorState.lifecycle? : CursorState → Option Lifecycle
  | succeeded => some .succeeded
  | failed => some .failed
  | cancelled => some .cancelled
  | _ => none

/-- Why the n-th submission on a service has brought no identifier. -/
inductive Unsubmitted (service : Service) (index : Nat) : Error → Prop
  | refused {source : TransportError} (answer : (service.start index).result = .error source) :
      Unsubmitted service index (.database (.submitFailed source))
  | unidentified (answer : submittedId? service index = some "") :
      Unsubmitted service index (.data (.missingSection .queryExecutionId))

theorem Unsubmitted.ofAnswer {service : Service} {index : Nat} {error : Error}
    (h : Unsubmitted service index error) : error.OfAnswer := by
  cases h <;> trivial

namespace QueryCursor

def polling (cursor : QueryCursor) (queryId : String) : QueryCursor :=
  { cursor with state := .polling, queryId := some queryId }

/-- The statement was submitted by the call and answered with the identifier of a query. -/
structure Submits (cursor : QueryCursor) (sql : String) (line : Line) (queryId : String)
    (calls : List TimedCall) (after : Line) : Prop where
  reaches : line.Reaches calls after
  request : ∃ instant token, calls = [⟨instant, .startQuery (request cursor.params sql token)⟩]
  answered : submittedId? line.service line.started = some queryId
  nonempty : queryId ≠ ""
  submitted : submit cursor.params sql line = (.ok queryId, after)

theorem Submits.countOf_eq_zero {cursor : QueryCursor} {sql queryId : String} {line after : Line}
    {calls : List TimedCall} (h : Submits cursor sql line queryId calls after)
    {operation : Operation} (other : operation ≠ .startQuery) : countOf operation calls = 0 := by
  obtain ⟨instant, token, rfl⟩ := h.request
  rw [countOf_cons, if_neg (by simpa [Call.operation?] using other.symm)]
  rfl

theorem Submits.countOf_polls {cursor : QueryCursor} {sql queryId : String} {line after : Line}
    {start polls : List TimedCall} (h : Submits cursor sql line queryId start after)
    (only : Polling.OnlyPolls queryId polls) {operation : Operation}
    (submit : operation ≠ .startQuery) (poll : operation ≠ .getQueryExecution) :
    countOf operation (polls ++ start) = 0 := by
  rw [countOf_append, only.countOf_eq_zero poll, h.countOf_eq_zero submit]

theorem submit_cases {cursor : QueryCursor} {sql : String} {line after : Line}
    {result : Except Error String} (h : submit cursor.params sql line = (result, after)) :
    ∃ instant token, line.Reaches [⟨instant, .startQuery (request cursor.params sql token)⟩] after ∧
      ((∃ error, result = .error error ∧ Unsubmitted line.service line.started error) ∨
        ∃ queryId, result = .ok queryId ∧ queryId ≠ "" ∧
          submittedId? line.service line.started = some queryId) := by
  unfold submit at h
  simp only at h
  generalize line.service.requestToken line.started = token at h
  have reaches := line.reaches_startQuery (request cursor.params sql token)
  have answer : (line.startQuery (request cursor.params sql token)).1 =
      (line.service.start line.started).result := rfl
  generalize line.startQuery (request cursor.params sql token) = asked at h reaches answer
  obtain ⟨source | response, reached⟩ := asked
  · cases h
    exact ⟨_, token, reaches, .inl ⟨_, rfl, .refused answer.symm⟩⟩
  · have named : submittedId? line.service line.started = some response.queryExecutionId := by
      rw [submittedId?, ← answer]
    simp only at h
    split at h
    · rename_i empty
      rw [String.isEmpty_iff.mp empty] at named
      cases h
      exact ⟨_, token, reaches, .inl ⟨_, rfl, .unidentified named⟩⟩
    · rename_i nonempty
      cases h
      exact ⟨_, token, reaches, .inr ⟨_, rfl, by simpa [String.isEmpty_iff] using nonempty, named⟩⟩

theorem openFor_cases {line after : Line} {queryId : String} {size : Nat}
    {result : Except Error ResultSet} (nonempty : queryId ≠ "")
    (h : ResultSet.openFor line queryId size = (result, after)) :
    ∃ call, line.Reaches [call] after ∧ OnlyPageRequests queryId [call] ∧
      ((∃ error, result = .error error ∧ ResultSet.pageOf line.nextPage.result = .error error) ∨
        ∃ page, result = .ok (.ofFirstPage queryId (ResultSet.clampPageSize size) page) ∧
          ResultSet.pageOf line.nextPage.result = .ok page) := by
  rw [ResultSet.openFor, if_neg (by simpa [String.isEmpty_iff] using nonempty)] at h
  simp only at h
  generalize ResultSet.clampPageSize size = pageSize at h ⊢
  have reaches := ResultSet.fetchPage_reaches line queryId pageSize none
  have asks :
      OnlyPageRequests queryId [⟨line.now, .getQueryResults ⟨queryId, pageSize, none⟩⟩] := by
    intro timed member
    rw [List.mem_singleton.mp member]
    exact ⟨rfl, rfl⟩
  rw [← ResultSet.fetchPage_answer line queryId pageSize none]
  generalize ResultSet.fetchPage line queryId pageSize none = found at h reaches
  obtain ⟨error | page, reached⟩ := found
  · cases h
    exact ⟨_, reaches, asks, .inl ⟨error, rfl, rfl⟩⟩
  · cases h
    exact ⟨_, reaches, asks, .inr ⟨page, rfl, rfl⟩⟩

end QueryCursor

end RemoteQuery
